/-
**Manifests, and what is loaded for them.**

The manifest of a story lists each name that the story mentions once. What is loaded for a manifest is
all of it: under each name stands what its source gives. If one source gives nothing, nothing is loaded.

* `Story.Document.Mentions`, `Asset.mem_references`: the names that a story mentions;
* `Asset.Manifest.Lists`, `Asset.Manifest.lists_ofReferences`: a manifest lists each name once;
* `Asset.Manifest.lists_exactly`: the manifest of a story lists exactly its references;
* `Asset.Resources.Supplies`, `Asset.Manifest.Lists.supplies`: the assets of a manifest are those of its
  sources;
* `Asset.Shelf.load_covering`: a shelf that is made for a manifest has all of its sources.
-/

import Mathlib.Data.List.Nodup
import Storybook.Asset.Resource
import Storybook.Proofs.Tables

namespace Storybook

/-! ### What a story mentions -/

namespace Story.Document

/-- Some scene of a story has a character. -/
def Features (document : Document) (character : Character) : Prop :=
  ∃ entry ∈ document.scenes, character ∈ entry.2.characters

/-- Some character of a name has an effect, whatever the key of the action that it is part of. -/
def Performs (document : Document) (name : String) (effect : Effect) : Prop :=
  ∃ character, document.Features character ∧ character.name = name ∧
    ∃ action ∈ character.actions, effect ∈ action.2

/-- **The names of pictures and sounds that a story mentions**, in whatever place. -/
inductive Mentions (document : Document) : String → Prop
  | splashImage : Mentions document document.splash.image
  | splashSound : Mentions document document.splash.sound
  | background {id : String} {scene : Scene} (listed : (id, scene) ∈ document.scenes) :
      Mentions document scene.background
  | sound {id : String} {scene : Scene} {sound : Sound} (listed : (id, scene) ∈ document.scenes)
      (inside : sound ∈ scene.sounds) : Mentions document sound.file
  | picture {character : Character} (features : document.Features character) :
      Mentions document character.image
  | audio {character name : String} (performs : document.Performs character (.audio name)) :
      Mentions document name
  | transition {character name : String} (performs : document.Performs character (.transition name)) :
      Mentions document name

end Story.Document

namespace Asset

open Story

theorem mem_characterReferences {character : Character} {name : String} :
    name ∈ characterReferences character ↔ name = character.image ∨
      ∃ action ∈ character.actions, ∃ effect ∈ action.2, effect.asset? = some name := by
  simp only [characterReferences, List.mem_cons, List.mem_flatMap, List.mem_filterMap]

theorem mem_sceneReferences {scene : Scene} {name : String} :
    name ∈ sceneReferences scene ↔ name = scene.background ∨
      (∃ sound ∈ scene.sounds, sound.file = name) ∨
        ∃ character ∈ scene.characters, name ∈ characterReferences character := by
  simp only [sceneReferences, List.cons_append, List.mem_cons, List.mem_append, List.mem_map,
    List.mem_flatMap]

/-- The names that a character refers to are mentioned in its story. -/
theorem mentions_of_character {document : Document} {character : Character} {name : String}
    (features : document.Features character) (refers : name ∈ characterReferences character) :
    document.Mentions name := by
  rcases mem_characterReferences.mp refers with rfl | ⟨action, acts, effect, does, asset⟩
  · exact .picture features
  · cases effect with
    | audio sound =>
      cases asset
      exact .audio ⟨character, features, rfl, action, acts, does⟩
    | transition image =>
      cases asset
      exact .transition ⟨character, features, rfl, action, acts, does⟩
    | _ => cases asset

/-- A name that an effect of a story needs is referred to. -/
theorem mem_references_of_performs {document : Document} {character name : String} {effect : Effect}
    (performs : document.Performs character effect) (asset : effect.asset? = some name) :
    name ∈ references document := by
  obtain ⟨character, ⟨entry, listed, inside⟩, _, action, acts, does⟩ := performs
  refine List.mem_cons_of_mem _ (List.mem_cons_of_mem _ (List.mem_flatMap.mpr ⟨entry, listed, ?_⟩))
  refine mem_sceneReferences.mpr (.inr (.inr ⟨character, inside, ?_⟩))
  exact mem_characterReferences.mpr (.inr ⟨action, acts, effect, does, asset⟩)

/-- **A story refers to the names that it mentions, and to no others.** -/
theorem mem_references {document : Document} {name : String} :
    name ∈ references document ↔ document.Mentions name := by
  constructor
  · intro refers
    rcases List.mem_cons.mp refers with rfl | refers
    · exact .splashImage
    rcases List.mem_cons.mp refers with rfl | refers
    · exact .splashSound
    obtain ⟨⟨id, scene⟩, listed, refers⟩ := List.mem_flatMap.mp refers
    rcases mem_sceneReferences.mp refers with rfl | ⟨sound, inside, rfl⟩ | ⟨character, inside, refers⟩
    · exact .background listed
    · exact .sound listed inside
    · exact mentions_of_character ⟨(id, scene), listed, inside⟩ refers
  · have within {entry : String × Scene} (listed : entry ∈ document.scenes)
        (refers : name ∈ sceneReferences entry.2) : name ∈ references document :=
      List.mem_cons_of_mem _ (List.mem_cons_of_mem _ (List.mem_flatMap.mpr ⟨entry, listed, refers⟩))
    intro mentions
    cases mentions with
    | splashImage => exact List.mem_cons_self
    | splashSound => exact List.mem_cons_of_mem _ List.mem_cons_self
    | background listed => exact within listed (mem_sceneReferences.mpr (.inl rfl))
    | sound listed inside =>
      exact within listed (mem_sceneReferences.mpr (.inr (.inl ⟨_, inside, rfl⟩)))
    | picture features =>
      obtain ⟨entry, listed, inside⟩ := features
      refine within listed (mem_sceneReferences.mpr (.inr (.inr ⟨_, inside, ?_⟩)))
      exact mem_characterReferences.mpr (.inl rfl)
    | audio performs => exact mem_references_of_performs performs rfl
    | transition performs => exact mem_references_of_performs performs rfl

/-! ### Manifests -/

namespace Manifest

/-- **A manifest lists names**: each of them once, at its first place among them, as a source that is
known under its own name, and those can be looked up. -/
structure Lists (manifest : Manifest) (names : List String) : Prop where
  order : manifest.aliases = names.eraseDups
  distinct : manifest.aliases.Nodup
  sources : ∀ entry ∈ manifest.entries, entry.source = entry.name
  contains : ∀ name, manifest.contains name = true ↔ name ∈ manifest.aliases

variable {manifest : Manifest} {names : List String}

theorem Lists.aliases (lists : manifest.Lists names) (name : String) :
    name ∈ manifest.aliases ↔ name ∈ names := by
  rw [lists.order, List.mem_eraseDups]

/-- A name stays at its first place when it comes again, and comes last when it is new. -/
theorem eraseDups_concat (names : List String) (name : String) : (names ++ [name]).eraseDups =
    if name ∈ names then names.eraseDups else names.eraseDups ++ [name] := by
  rw [List.eraseDups_append]
  by_cases known : name ∈ names
  · simp [List.removeAll, known]
  · simp [List.removeAll, known, List.eraseDups_cons]

theorem Lists.push (lists : manifest.Lists names) (reference : String) :
    (manifest.push reference).2.Lists (names ++ [reference]) := by
  unfold Manifest.push
  split
  case isTrue known =>
    have known := (lists.aliases reference).mp ((lists.contains reference).mp known)
    refine { lists with order := ?_ }
    rw [eraseDups_concat, if_pos known]
    exact lists.order
  case isFalse new =>
    have new : reference ∉ manifest.aliases := fun inside => new ((lists.contains reference).mpr inside)
    have added : Manifest.aliases ⟨manifest.entries ++ [⟨reference, reference⟩],
        manifest.listed.insert reference ()⟩ = manifest.aliases ++ [reference] := List.map_append
    refine ⟨?_, ?_, List.forall_mem_append.mpr ⟨lists.sources, ?_⟩, fun name => ?_⟩
    · rw [added, eraseDups_concat, if_neg (mt (lists.aliases reference).mpr new), lists.order]
    · rw [added]
      refine List.nodup_append.mpr ⟨lists.distinct, List.nodup_singleton _, ?_⟩
      exact fun name inside other last same => new (List.mem_singleton.mp last ▸ same ▸ inside)
    · exact fun entry last => List.mem_singleton.mp last ▸ rfl
    · rw [added, List.mem_append, List.mem_singleton, ← lists.contains]
      unfold Manifest.contains
      dsimp only
      rw [Table.find?_insert]
      by_cases same : name = reference <;> simp [same]

theorem Lists.pushAll (lists : manifest.Lists names) (references : List String) :
    (manifest.pushAll references).Lists (names ++ references) := by
  induction references generalizing manifest names with
  | nil =>
    rw [List.append_nil]
    exact lists
  | cons reference rest ih =>
    rw [List.append_cons]
    exact ih (lists.push reference)

theorem lists_empty : empty.Lists [] :=
  ⟨rfl, List.nodup_nil, (fun _ member => nomatch member), fun _ => ⟨nofun, nofun⟩⟩

/-- **A manifest lists each of its references once.** -/
theorem lists_ofReferences (references : List String) :
    (ofReferences references).Lists references :=
  lists_empty.pushAll references

/-! ### The manifest of a story -/

/-- Adding references one after the other, part by part, adds all of them. -/
theorem foldl_pushAll {α : Type} (manifest : Manifest) (parts : List α) (list : α → List String)
    {step : Manifest → α → Manifest}
    (adds : ∀ manifest part, step manifest part = manifest.pushAll (list part)) :
    parts.foldl step manifest = manifest.pushAll (parts.flatMap list) := by
  unfold Manifest.pushAll at adds ⊢
  rw [List.foldl_flatMap]
  congr 1
  funext manifest part
  exact adds manifest part

theorem pushAll_append (manifest : Manifest) (first second : List String) :
    manifest.pushAll (first ++ second) = (manifest.pushAll first).pushAll second :=
  List.foldl_append

theorem pushCharacter_eq (manifest : Manifest) (character : Character) :
    manifest.pushCharacter character = manifest.pushAll (characterReferences character) := by
  unfold pushCharacter
  exact foldl_pushAll _ character.actions (fun action => action.2.filterMap Effect.asset?)
    fun _ _ => rfl

theorem pushScene_eq (manifest : Manifest) (scene : Scene) :
    manifest.pushScene scene = manifest.pushAll (sceneReferences scene) := by
  unfold pushScene sceneReferences
  rw [foldl_pushAll _ _ characterReferences pushCharacter_eq, ← pushAll_append]
  rfl

/-- **The manifest of a story is that of all its references.** -/
theorem ofDocument_eq (document : Document) :
    ofDocument document = ofReferences (references document) := by
  unfold ofDocument
  rw [foldl_pushAll _ _ (fun entry => sceneReferences entry.2) fun manifest entry =>
    manifest.pushScene_eq entry.2, ← pushAll_append]
  rfl

theorem lists_ofDocument (document : Document) :
    (ofDocument document).Lists (references document) :=
  ofDocument_eq document ▸ lists_ofReferences (references document)

/-- **The manifest lists exactly the references of its story**, each of them at its first place, none
twice, each as a source under its own name. They are the names that the story mentions, and those that can
be looked up. -/
theorem lists_exactly (document : Document) :
    let manifest := ofDocument document
    manifest.aliases = (references document).eraseDups ∧
      (∀ name, name ∈ manifest.aliases ↔ document.Mentions name) ∧
      (∀ entry ∈ manifest.entries, entry.source = entry.name) ∧
        manifest.aliases.Nodup ∧
          ∀ name, manifest.contains name = true ↔ ∃ entry ∈ manifest.entries, entry.name = name := by
  intro manifest
  have lists : manifest.Lists (references document) := lists_ofDocument document
  refine ⟨lists.order, fun name => (lists.aliases name).trans mem_references, lists.sources, lists.distinct,
    fun name => ?_⟩
  rw [lists.contains]
  exact List.mem_map

end Manifest

/-! ### Loading -/

/-- **The assets of a manifest are those of its sources**: under each name what its source gives, and
nothing else. -/
structure Resources.Supplies (resources : Resources) (load? : String → Option Resource)
    (manifest : Manifest) : Prop where
  size : resources.size = manifest.entries.length
  found : ∀ name ∈ manifest.aliases, resources.find? name = load? name
  others : ∀ name, name ∉ manifest.aliases → resources.find? name = none

/-- Puts what the source of an entry gives under its name. -/
def Resources.place (load? : String → Option Resource) (resources : Resources) (entry : Entry) :
    Resources :=
  match load? entry.source with
  | some resource => resources.insert entry.name resource
  | none => resources

variable {load? : String → Option Resource} {manifest : Manifest} {resources : Resources}

/-- Loading is all or nothing. -/
theorem loadEach_eq (load? : String → Option Resource) (manifest : Manifest) :
    loadEach load? manifest =
      if ∀ entry ∈ manifest.entries, (load? entry.source).isSome then
        .ok (manifest.entries.foldl (Resources.place load?) .empty)
      else
        .error ⟨(manifest.entries.filter fun entry =>
          (load? entry.source).isNone).map Entry.source⟩ := by
  have none : (manifest.entries.filter fun entry => (load? entry.source).isNone).isEmpty ↔
      ∀ entry ∈ manifest.entries, (load? entry.source).isSome := by
    rw [List.isEmpty_iff, List.filter_eq_nil_iff]
    refine forall₂_congr fun entry _ => ?_
    rw [Bool.not_eq_true, Option.isNone_eq_false_iff]
  unfold loadEach
  by_cases all : ∀ entry ∈ manifest.entries, (load? entry.source).isSome
  · rw [if_pos all, if_pos (none.mpr all)]
    rfl
  · rw [if_neg all, if_neg fun empty => all (none.mp empty)]
    rfl

/-- A manifest loads if none of its sources is missing. -/
theorem exists_loadEach_iff : (∃ resources, loadEach load? manifest = .ok resources) ↔
    ∀ entry ∈ manifest.entries, (load? entry.source).isSome := by
  rw [loadEach_eq]
  split
  case isTrue all => exact ⟨fun _ => all, fun _ => ⟨_, rfl⟩⟩
  case isFalse some => exact ⟨nofun, fun all => absurd all some⟩

/-- A name is one of the later ones, or else the first. -/
theorem ite_mem_cons {α : Type} {name first : String} {rest : List String} {listed other : α} :
    (if name ∈ first :: rest then listed else other) =
      if name ∈ rest then listed else if name = first then listed else other := by
  by_cases later : name ∈ rest
  · rw [if_pos later, if_pos (List.mem_cons_of_mem first later)]
  · rw [if_neg later]
    exact ite_congr (propext (List.mem_cons.trans (or_iff_left later))) (fun _ => rfl) fun _ => rfl

/-- What the source of an entry gives is placed under its name. -/
theorem Resources.place_eq {entry : Entry} {resource : Resource} (resources : Resources)
    (gives : load? entry.source = some resource) :
    resources.place load? entry = resources.insert entry.name resource := by
  unfold place
  rw [gives]

/-- What is placed from entries is found, beside what was there before. -/
theorem find?_foldl_place (entries : List Entry) (resources : Resources)
    (sources : ∀ entry ∈ entries, entry.source = entry.name)
    (loaded : ∀ entry ∈ entries, (load? entry.source).isSome) (name : String) :
    (entries.foldl (Resources.place load?) resources).find? name =
      if name ∈ entries.map Entry.name then load? name else resources.find? name := by
  induction entries generalizing resources with
  | nil => rfl
  | cons entry rest ih =>
    obtain ⟨source, sources⟩ := List.forall_mem_cons.mp sources
    obtain ⟨present, loaded⟩ := List.forall_mem_cons.mp loaded
    obtain ⟨resource, gives⟩ := Option.isSome_iff_exists.mp present
    have first : (resources.place load? entry).find? name =
        if name = entry.name then load? name else resources.find? name := by
      rw [resources.place_eq gives]
      refine Table.find?_insert.trans ?_
      split
      case isTrue same => rw [same, ← source, gives]
      case isFalse => rfl
    rw [List.foldl_cons, ih _ sources loaded, first, List.map_cons, ite_mem_cons]

/-- Entries of different names are placed beside each other. -/
theorem size_foldl_place (entries : List Entry) (resources : Resources)
    (loaded : ∀ entry ∈ entries, (load? entry.source).isSome)
    (distinct : (entries.map Entry.name).Nodup)
    (new : ∀ entry ∈ entries, entry.name ∉ resources.entries.keys) :
    (entries.foldl (Resources.place load?) resources).size = resources.size + entries.length := by
  induction entries generalizing resources with
  | nil => rfl
  | cons entry rest ih =>
    obtain ⟨present, loaded⟩ := List.forall_mem_cons.mp loaded
    obtain ⟨absent, new⟩ := List.forall_mem_cons.mp new
    obtain ⟨other, distinct⟩ := List.nodup_cons.mp distinct
    obtain ⟨resource, gives⟩ := Option.isSome_iff_exists.mp present
    have grown : (resources.place load? entry).size = resources.size + 1 := by
      rw [resources.place_eq gives]
      exact Table.length_insert absent
    -- The names that are still to come are new beside this one, too.
    have apart : ∀ later ∈ rest, later.name ∉ (resources.place load? entry).entries.keys := by
      intro later member
      rw [resources.place_eq gives]
      intro inside
      rcases Table.mem_keys_insert.mp inside with same | inside
      · exact other (same ▸ List.mem_map_of_mem member)
      · exact new later member inside
    rw [List.foldl_cons, ih _ loaded distinct apart, grown, List.length_cons, Nat.add_assoc,
      Nat.add_comm 1]

/-- **The assets of a manifest**, once it is loaded. -/
theorem Manifest.Lists.supplies {names : List String} (lists : manifest.Lists names)
    (loads : loadEach load? manifest = .ok resources) : resources.Supplies load? manifest := by
  rw [loadEach_eq] at loads
  split at loads
  case isFalse => cases loads
  case isTrue loaded =>
    cases loads
    have found (name : String) :
        (manifest.entries.foldl (Resources.place load?) .empty).find? name =
          if name ∈ manifest.aliases then load? name else none :=
      find?_foldl_place manifest.entries .empty lists.sources loaded name
    have size := size_foldl_place manifest.entries .empty loaded lists.distinct
      fun _ _ => List.not_mem_nil
    refine ⟨size.trans (Nat.zero_add _), fun name listed => ?_, fun name unlisted => ?_⟩
    · rw [found, if_pos listed]
    · rw [found, if_neg unlisted]

/-- Each name that a manifest lists has an asset, once it is loaded. -/
theorem Manifest.Lists.supplied {names : List String} {name : String} (lists : manifest.Lists names)
    (loads : loadEach load? manifest = .ok resources) (listed : name ∈ names) :
    ∃ resource, load? name = some resource ∧ resources.find? name = some resource := by
  have known := (lists.aliases name).mpr listed
  obtain ⟨entry, member, rfl⟩ := List.mem_map.mp known
  have present := exists_loadEach_iff.mp ⟨resources, loads⟩ entry member
  obtain ⟨resource, gives⟩ := Option.isSome_iff_exists.mp present
  rw [lists.sources entry member] at gives
  exact ⟨resource, gives, ((lists.supplies loads).found _ known).trans gives⟩

/-! ### Shelves that are made for a manifest -/

namespace Shelf

/-- A shelf that is made for a manifest has what stands for its names. -/
theorem find?_covering (manifest : Manifest) (texture : Texture) (name : String) :
    (covering manifest texture).available.find? name =
      if name ∈ manifest.aliases then some (guess texture name) else none := by
  have all : ∀ (names : List String) (shelf : Shelf),
      (names.foldl (fun shelf name => shelf.insert name (guess texture name))
          shelf).available.find? name =
        if name ∈ names then some (guess texture name) else shelf.available.find? name := by
    intro names
    induction names with
    | nil => exact fun shelf => rfl
    | cons first rest ih =>
      intro shelf
      have stands : (shelf.insert first (guess texture first)).available.find? name =
          if name = first then some (guess texture name) else shelf.available.find? name := by
        refine Table.find?_insert.trans (ite_congr rfl (fun same => ?_) fun _ => rfl)
        rw [same]
      rw [List.foldl_cons, ih, stands, ite_mem_cons]
  exact all manifest.aliases empty

/-- **A shelf that is made for a manifest has all of its sources**, and gives each the kind that its
name is guessed to have. -/
theorem load_covering {names : List String} (lists : manifest.Lists names) (texture : Texture) :
    ∃ resources, (covering manifest texture).load manifest = .ok resources ∧
      ∀ name ∈ names, resources.find? name = some (guess texture name) := by
  have stands : ∀ name ∈ manifest.aliases,
      (covering manifest texture).available.find? name = some (guess texture name) := by
    intro name listed
    rw [find?_covering, if_pos listed]
  have present : ∀ entry ∈ manifest.entries,
      ((covering manifest texture).available.find? entry.source).isSome := by
    intro entry member
    rw [lists.sources entry member, stands entry.name (List.mem_map_of_mem member)]
    rfl
  obtain ⟨resources, loads⟩ := exists_loadEach_iff.mpr present
  refine ⟨resources, loads, fun name listed => ?_⟩
  have listed := (lists.aliases name).mpr listed
  rw [(lists.supplies loads).found name listed, stands name listed]

end Shelf

end Asset

end Storybook
