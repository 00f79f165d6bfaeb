/-
**Loading is all or nothing, and enough for the whole play.**

A story loads if all names that it mentions are on the shelf. From then on every name that it mentions
is found, and the assets stay the same all through the play. So no effect is left out because something
was not loaded: it makes no sense in itself, or what it names is of the other kind.

* `Story.Document.Excuses`: why an effect is left out of a play;
* `Accounts`, `lasts_accounts`: every effect that was left out has such an excuse;
* `Player.Equipped`: what holds of a player that was loaded;
* `Player.load_equips`: loading is all or nothing, and enough.
-/

import Storybook.Proofs.Arrivals
import Storybook.Proofs.Casts
import Storybook.Proofs.Manifests

namespace Storybook

/-! ### Excuses -/

/-- **Why an effect of a story is left out of its play**: the effect makes no sense, it names a sound
where there is a picture, or a picture where there is a sound. -/
inductive Story.Document.Excuses (document : Document) (find? : String → Option Asset.Resource)
    (character : String) : SkippedEffect → Prop
  | unresolved {name : String} {fault : Data.Fault}
      (performs : document.Performs character (.unresolved name fault)) :
      Excuses document find? character ⟨name, .unresolved fault⟩
  | picture {sound : String} {texture : Asset.Texture}
      (performs : document.Performs character (.audio sound))
      (other : find? sound = some (.texture texture)) :
      Excuses document find? character ⟨"audio", .noSound sound⟩
  | sound {image : String} {clip : Asset.Clip}
      (performs : document.Performs character (.transition image))
      (other : find? image = some (.sound clip)) :
      Excuses document find? character ⟨"transition", .noImage image⟩

/-- The assets have what stands on a shelf under each name that a story mentions. -/
def Asset.Resources.Covers (resources : Asset.Resources) (find? : String → Option Asset.Resource)
    (document : Story.Document) : Prop :=
  ∀ name, document.Mentions name → ∃ resource,
    find? name = some resource ∧ resources.find? name = some resource

section

variable {document : Story.Document} {resources : Asset.Resources}
  {find? : String → Option Asset.Resource} {options : SceneOptions}

/-- Where all is loaded that a story mentions, an effect that cannot be used has an excuse. -/
theorem Asset.Resources.Covers.excuses (covers : resources.Covers find? document) {character : String}
    {effect : Story.Effect} {offset : Single} {sprite : SpriteId} {skipped : SkippedEffect}
    (performs : document.Performs character effect)
    (failed : Effect.build resources offset sprite effect = .error skipped) :
    document.Excuses find? character skipped := by
  cases effect with
  | audio sound =>
    obtain ⟨resource, stands, found⟩ := covers sound (.audio performs)
    cases resource with
    | texture texture =>
      simp only [Effect.build, Asset.Resources.sound?, found] at failed
      cases failed
      exact .picture performs stands
    | sound clip =>
      simp only [Effect.build, Asset.Resources.sound?, found] at failed
      cases failed
  | transition image =>
    obtain ⟨resource, stands, found⟩ := covers image (.transition performs)
    cases resource with
    | texture texture =>
      simp only [Effect.build, Asset.Resources.texture?, found] at failed
      cases failed
    | sound clip =>
      simp only [Effect.build, Asset.Resources.texture?, found] at failed
      cases failed
      exact .sound performs stands
  | unresolved name fault =>
    cases failed
    exact .unresolved performs
  | _ => cases failed

/-! ### All through a play -/

/-- The cast that a scene of a story begins with is one of the story. -/
theorem Story.Document.features_cast (document : Document) {id : String} {scene : Story.Scene}
    (listed : (id, scene) ∈ document.scenes) {character : Storybook.Character}
    (member : character ∈ Scene.cast scene) : document.Features character.spec := by
  obtain ⟨⟨spec, index⟩, numbered, rfl⟩ := List.mem_map.mp member
  exact ⟨_, listed, (List.mem_zipIdx' numbered).2 ▸ List.getElem_mem _⟩

/-- A cast of a story stays one of it, if the part of one of its characters stays the same. -/
theorem Story.Document.features_middle {document : Document} {front back : List Storybook.Character}
    {before after : Storybook.Character}
    (features : ∀ character ∈ front ++ before :: back, document.Features character.spec)
    (spec : after.spec = before.spec) :
    ∀ character ∈ front ++ after :: back, document.Features character.spec :=
  forall_mem_middle features (spec ▸ features before (List.mem_append_right _ List.mem_cons_self))

/-- **Every effect that was left out has an excuse**, while the assets stay the same and the cast is one
of the story. -/
structure Accounts (document : Story.Document) (resources : Asset.Resources)
    (find? : String → Option Asset.Resource) (cast : List Character) (world : World) : Prop where
  resources : world.resources = resources
  cast : ∀ character ∈ cast, document.Features character.spec
  events : ∀ name skipped, Event.effectSkipped name skipped ∈ world.events →
    document.Excuses find? name skipped

/-- What a character leaves out of its story when it enters the stage has an excuse. -/
theorem Asset.Resources.Covers.excuses_omission (covers : resources.Covers find? document)
    {character : Character} (features : document.Features character.spec) {binder : Binder}
    {world : World} (same : world.resources = resources) {name : String} {skipped : SkippedEffect}
    (tells : character.TellsOmission binder world (.effectSkipped name skipped)) :
    document.Excuses find? name skipped := by
  obtain ⟨rfl, action, acts, effect, does, failed⟩ := tells name skipped rfl
  exact covers.excuses ⟨character.spec, features, rfl, action, acts, does⟩ (same ▸ failed)

/-- An event that tells of an effect that is left out tells of one with an excuse. -/
def Story.Document.Excused (document : Document) (find? : String → Option Asset.Resource)
    (event : Event) : Prop :=
  ∀ name skipped, event = .effectSkipped name skipped → document.Excuses find? name skipped

/-- An event that tells of no arrival needs no excuse. -/
theorem World.Abides.excused {first last : World} (abides : first.Abides last) :
    World.Reports (document.Excused find?) first last := by
  refine abides.events.imp fun event quiet name skipped told => ?_
  rw [told] at quiet
  cases quiet

/-- What is done is accounted for, if there is an excuse for every effect that is left out. -/
theorem Accounts.extend {cast : List Character} {first last : World}
    (accounts : Accounts document resources find? cast first)
    (same : last.resources = first.resources)
    (excused : World.Reports (document.Excused find?) first last) :
    Accounts document resources find? cast last where
  resources := same.trans accounts.resources
  cast := accounts.cast
  events name skipped member := by
    rcases excused.mem member with old | new
    · exact accounts.events name skipped old
    · exact new name skipped rfl

/-- So is what becomes of one character, whose part in the story is the same. -/
theorem Accounts.turn {front back : List Character} {before after : Character} {world : World}
    (accounts : Accounts document resources find? (front ++ before :: back) world)
    (spec : after.spec = before.spec) :
    Accounts document resources find? (front ++ after :: back) world where
  resources := accounts.resources
  cast := Story.Document.features_middle accounts.cast spec
  events := accounts.events

theorem Accounts.enter (covers : resources.Covers find? document) {front back : List Character}
    {character : Character} {texture : Asset.Texture} {world : World}
    (accounts : Accounts document resources find? (front ++ character :: back) world) :
    Accounts document resources find?
      (front ++ (character.enterStage (document.binder options) texture world).1 :: back)
      (character.enterStage (document.binder options) texture world).2 := by
  have arrives := character.arrives_enterStage (document.binder options) texture world
  have features := accounts.cast character (List.mem_append_right _ List.mem_cons_self)
  have excused : World.Reports (document.Excused find?) world
      (character.enterStage (document.binder options) texture world).2 := by
    refine arrives.events.imp fun event tells => ?_
    rintro name skipped rfl
    exact covers.excuses_omission features accounts.resources tells
  exact (accounts.extend arrives.resources excused).turn arrives.spec

/-- **Every effect that is left out in a play has an excuse**, if all is loaded that the story
mentions. -/
theorem lasts_accounts (covers : resources.Covers find? document) :
    Lasts document options (Accounts document resources find?) where
  abides abides accounts := accounts.extend abides.resources abides.excused
  pictures _ _ accounts := ⟨accounts.resources, accounts.cast, accounts.events⟩
  changes _ _ accounts := accounts.turn rfl
  leaves accounts :=
    have left := Character.abides_disappear _ _
    (accounts.extend left.resources left.excused).turn rfl
  enters _ _ accounts := accounts.enter covers
  begins listed accounts :=
    ⟨accounts.resources, fun _ => document.features_cast listed, accounts.events⟩
  ends _ accounts := ⟨accounts.resources, (fun _ member => nomatch member), accounts.events⟩

end

/-! ### Loading -/

namespace Player

/-- **A player that is equipped for its story**: its assets are as many as the manifest lists, they stay
the same, what the story mentions is there as it stands on the shelf, and no effect is left out without
an excuse, whatever is done with the player. -/
structure Equipped (document : Story.Document) (shelf : Asset.Shelf) (player : Player) : Prop where
  manifest : player.manifest = .ofDocument document
  size : player.world.resources.size = player.manifest.entries.length
  covers : player.world.resources.Covers shelf.available.find? document
  stays : ∀ operations, (player.run operations).world.resources = player.world.resources
  excuses : ∀ operations name skipped,
    .effectSkipped name skipped ∈ (player.run operations).world.events →
      document.Excuses shelf.available.find? name skipped

theorem load_eq_ok {document : Story.Document} {shelf : Asset.Shelf} {audio : Audio}
    {viewport : Viewport} {options : SceneOptions} {player : Player} :
    load document shelf audio viewport options = .ok player ↔ ∃ resources,
      shelf.load (.ofDocument document) = .ok resources ∧
        ofResources document resources audio viewport options = player := by
  unfold load
  cases shelf.load (.ofDocument document) <;> simp [bind, Except.bind, pure, Except.pure]

/-- A player with all that its story mentions is equipped for it. -/
theorem equipped_ofResources {document : Story.Document} {resources : Asset.Resources}
    {shelf : Asset.Shelf} (loads : shelf.load (.ofDocument document) = .ok resources) (audio : Audio)
    (viewport : Viewport) (options : SceneOptions) :
    (ofResources document resources audio viewport options).Equipped document shelf := by
  have lists := Asset.Manifest.lists_ofDocument document
  have covers : resources.Covers shelf.available.find? document := fun name mentions =>
    lists.supplied loads (Asset.mem_references.mpr mentions)
  have begun : Accounts document resources shelf.available.find? []
      (ofResources document resources audio viewport options).world := by
    refine ⟨rfl, (fun _ member => nomatch member), fun name skipped member => ?_⟩
    cases Array.mem_singleton.mp member
  have accounts (operations : List Operation) := ((lasts_accounts covers).run begun operations).cast
  exact ⟨rfl, (lists.supplies loads).size, covers, fun operations => (accounts operations).resources,
    fun operations => (accounts operations).events⟩

/-- **Loading is all or nothing, and enough.** A story loads exactly if every entry of its manifest is
on the shelf; then the player is equipped for whatever is done with it; and a shelf that is made for
a manifest is enough for it, with sounds and pictures as their names tell. -/
theorem load_equips (document : Story.Document) (shelf : Asset.Shelf) (audio : Audio)
    (viewport : Viewport) (options : SceneOptions) :
    ((∃ player, load document shelf audio viewport options = .ok player) ↔
      ∀ entry ∈ (Asset.Manifest.ofDocument document).entries,
        (shelf.available.find? entry.source).isSome) ∧
    (∀ player, load document shelf audio viewport options = .ok player →
      player.Equipped document shelf) ∧
    ∀ (references : List String) (texture : Asset.Texture), ∃ resources,
      (Asset.Shelf.covering (.ofReferences references) texture).load (.ofReferences references) =
        .ok resources ∧
      ∀ name ∈ references, resources.find? name =
        some (if Asset.isAudio name then .sound ⟨none⟩ else .texture texture) := by
  refine ⟨?_, fun player loaded => ?_, fun references texture => ?_⟩
  · rw [← Asset.exists_loadEach_iff]
    simp only [load_eq_ok]
    constructor
    · rintro ⟨player, resources, loads, _⟩
      exact ⟨resources, loads⟩
    · rintro ⟨resources, loads⟩
      exact ⟨_, resources, loads, rfl⟩
  · obtain ⟨resources, loads, rfl⟩ := load_eq_ok.mp loaded
    exact equipped_ofResources loads audio viewport options
  · exact Asset.Shelf.load_covering (Asset.Manifest.lists_ofReferences references) texture

/-- A story of a bell that swings, which no effect does, and rings. -/
def porchStory : Story.Document where
  style := .standard
  splash := ⟨"house.png", "house.mp3"⟩
  start := "porch"
  scenes :=
    [("porch", ⟨"porch.png", [], [⟨"Bell", "bell.png", ⟨10, 20⟩, none,
      [("onload", [.unresolved "swing" .noValue]), ("touch", [.audio "ring.mp3", .spin 2])]⟩]⟩)]

/-- Its pictures and sounds, where there is a picture under the name of the sound of the bell. -/
def porchShelf : Asset.Shelf :=
  ⟨[("bell.png", .texture ⟨64, 64⟩), ("house.mp3", .sound ⟨none⟩), ("house.png", .texture ⟨640, 480⟩),
    ("porch.png", .texture ⟨640, 480⟩), ("ring.mp3", .texture ⟨64, 64⟩)]⟩

/-- The story loads from that shelf, but not from an empty one, and both effects are left out when the
porch is entered. -/
theorem equipped_porch :
    let audio : Audio := .silent 3000000000 []
    let player := ofResources porchStory ⟨porchShelf.available⟩ audio ⟨800, 600⟩ .standard
    (¬ ∃ player, load porchStory .empty audio ⟨800, 600⟩ .standard = .ok player) ∧
      load porchStory porchShelf audio ⟨800, 600⟩ .standard = .ok player ∧
      player.Equipped porchStory porchShelf ∧
      .effectSkipped "Bell" ⟨"swing", .unresolved .noValue⟩ ∈
        (player.run [.enterScene "porch"]).world.events ∧
      .effectSkipped "Bell" ⟨"audio", .noSound "ring.mp3"⟩ ∈
        (player.run [.enterScene "porch"]).world.events := by
  intro audio player
  have loaded : load porchStory porchShelf audio ⟨800, 600⟩ .standard = .ok player := by
    decide +kernel
  refine ⟨fun any => ?_, loaded, (load_equips porchStory porchShelf _ _ _).2.1 player loaded, ?_⟩
  · exact absurd ((load_equips porchStory .empty audio ⟨800, 600⟩ .standard).1.mp any) (by decide)
  · decide +kernel

end Player

end Storybook
