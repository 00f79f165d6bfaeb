/-
**What holds of every character, whatever becomes of it.**

A character of a scene that is played only ever appears or is touched. So what holds of all characters before
they first appear, and is kept when they appear and when they are touched, holds of all characters in play, in
every state that a player comes to. They stand in the order of the story, under their numbers.

* `Character.Endures`: an assertion that holds at first and is kept;
* `Scene.Upkeeps`: it holds of all characters of an active scene of the story, which stand in order;
* `Player.Visits`: the states that a player comes to, while its events are taken from it at will;
* `Player.Visits.upkeeps`: what endures holds in all of them.
-/

import Storybook.Proofs.Neighbours.Players
import Storybook.Proofs.Stances

namespace Storybook

/-! ### Characters -/

namespace Character

/-- **An assertion endures**: it holds of characters that have not appeared, and whatever becomes of a
character in worlds with the given assets, it is kept. -/
structure Endures (resources : Asset.Resources) (holds : Character → Prop) : Prop where
  ofSpec : ∀ id spec, holds (ofSpec id spec)
  appear : ∀ {character : Character} (binder : Binder) {world : World}, world.resources = resources →
    holds character → holds (character.appear binder world).1
  touch : ∀ {character : Character} (world : World), holds character → holds (character.touch world).2.1

/-- A character that enters the stage is the same one of the story. -/
theorem part_enterStage (character : Character) (binder : Binder) (texture : Asset.Texture)
    (world : World) : (character.enterStage binder texture world).1.part = character.part := by
  have fires (dressed : Character) (shown : World) : (dressed.fireOnLoad shown).1.part = dressed.part :=
    (dressed.runs_fireOnLoad shown).remains.part
  have falls (dressed : Character) (sprite : SpriteId) (shown : World) :
      (dressed.startGravity sprite shown).1.part = dressed.part := by
    obtain ⟨gravity, same⟩ := dressed.startGravity_fst sprite shown
    rw [same]
    rfl
  unfold enterStage
  dsimp only
  rw [falls, fires]
  rfl

theorem part_appear (character : Character) (binder : Binder) (world : World) :
    (character.appear binder world).1.part = character.part := by
  have left := (character.turns_withdraw world).remains.part
  rw [appear_eq]
  split
  · rw [part_enterStage, left]
  · exact left

theorem part_touch (character : Character) (world : World) :
    (character.touch world).2.1.part = character.part :=
  (character.runs_touch world).remains.part

end Character

/-! ### Scenes -/

/-- **An active scene of a story upkeeps an assertion**: it holds of all characters, which stand in the order
of the story. -/
structure Scene.Upkeeps (document : Story.Document) (holds : Character → Prop) (scene : Scene) : Prop where
  active : scene.state = .active
  declared : ∃ spec, document.scene? scene.id = some spec ∧
    scene.characters.map Character.part = (Scene.cast spec).map Character.part
  all : ∀ character ∈ scene.characters, holds character

namespace Scene

variable {document : Story.Document} {resources : Asset.Resources} {holds : Character → Prop}
  {scene : Scene} {world : World}

theorem Upkeeps.numbered (upkeeps : scene.Upkeeps document holds) : scene.Numbered := by
  obtain ⟨spec, _, parts⟩ := upkeeps.declared
  intro index character there
  have listed := congrArg (·[index]?) parts
  simp only [List.getElem?_map, there] at listed
  obtain ⟨first, found, same⟩ := Option.map_eq_some_iff.mp listed.symm
  have numbered : first.id = ⟨index⟩ := by
    simp only [cast, List.getElem?_map, List.getElem?_zipIdx, Option.map_map,
      Option.map_eq_some_iff] at found
    obtain ⟨declared, _, rfl⟩ := found
    simp [Character.ofSpec]
  exact (congrArg Prod.fst same).symm.trans numbered

/-- One character is put into the scene as it has become. -/
theorem Upkeeps.setCharacter (upkeeps : scene.Upkeeps document holds) {id : CharacterId}
    {character after : Character} (found : scene.character? id = some character)
    (same : after.part = character.part) (next : holds after) :
    (scene.setCharacter id after).Upkeeps document holds where
  active := upkeeps.active
  declared := by
    obtain ⟨spec, known, parts⟩ := upkeeps.declared
    refine ⟨spec, known, ?_⟩
    obtain ⟨inside, rfl⟩ := List.getElem?_eq_some_iff.mp found
    show (scene.characters.set id.index after).map Character.part = _
    have within : id.index < (scene.characters.map Character.part).length := by simpa using inside
    have listed : after.part = (scene.characters.map Character.part)[id.index] := by
      rw [same, List.getElem_map]
    rw [List.map_set, listed, List.set_getElem_self]
    exact parts
  all other member := by
    rcases List.mem_or_eq_of_mem_set member with old | rfl
    · exact upkeeps.all other old
    · exact next

variable (endures : Character.Endures resources holds)

include endures

/-- The characters appear one after the other. -/
theorem upkeeps_appearEach (binder : Binder) (characters : List Character)
    (all : ∀ character ∈ characters, holds character) (loaded : world.resources = resources) :
    (appearEach binder characters world).1.map Character.part = characters.map Character.part ∧
      ∀ character ∈ (appearEach binder characters world).1, holds character := by
  induction characters generalizing world with
  | nil => exact ⟨rfl, all⟩
  | cons first rest ih =>
    obtain ⟨head, others⟩ := List.forall_mem_cons.mp all
    have later := (first.works_appear binder world).resources.trans loaded
    obtain ⟨parts, further⟩ := ih others later
    refine ⟨congrArg₂ List.cons (first.part_appear binder world) parts, ?_⟩
    exact List.forall_mem_cons.mpr ⟨endures.appear binder loaded head, further⟩

/-- **A scene of the story is entered.** -/
theorem upkeeps_enter {id : String} {spec : Story.Scene} (known : document.scene? id = some spec)
    (style : Story.Style) (options : SceneOptions) (loaded : world.resources = resources) :
    ((ofSpec id spec style options).enter world).1.Upkeeps document holds := by
  let scene := ofSpec id spec style options
  let begun := scene.enterSounds (scene.remarkEntry world)
  let drawn := begun.1.drawBackground begun.2
  have told : world.Works begun.2 :=
    (world.works_info _ _).trans (SoundChain.works_scheduleAll _ _ _)
  have assets : drawn.2.resources = resources :=
    (told.trans (begun.1.works_drawBackground begun.2)).resources.trans loaded
  have same : drawn.1.characters = cast spec := characters_drawBackground begun.1 begun.2
  have fresh : ∀ character ∈ drawn.1.characters, holds character := by
    rw [same]
    intro character member
    obtain ⟨_, _, rfl⟩ := List.mem_map.mp member
    exact endures.ofSpec _ _
  obtain ⟨parts, all⟩ := upkeeps_appearEach endures drawn.1.binder drawn.1.characters fresh assets
  obtain ⟨active, named⟩ := enter_fst (show scene.state = .uninitialized from rfl) world
  have characters : (scene.enter world).1.characters =
      (appearEach drawn.1.binder drawn.1.characters drawn.2).1 := by
    rw [enter_eq rfl]
    rfl
  refine ⟨active, ⟨spec, ?_, ?_⟩, ?_⟩
  · rw [named]
    exact known
  · rw [characters, parts, same]
  · rw [characters]
    exact all

theorem Upkeeps.touch (upkeeps : scene.Upkeeps document holds) (id : CharacterId) (world : World) :
    (scene.touch id world).2.1.Upkeeps document holds := by
  unfold Scene.touch
  split
  · split
    · rename_i character found
      exact upkeeps.setCharacter found (character.part_touch world)
        (endures.touch world (upkeeps.all character (mem_of_character? found)))
    · exact upkeeps
  · exact upkeeps

theorem Upkeeps.pointerUpAt (upkeeps : scene.Upkeeps document holds) (x y : Single) (world : World) :
    (scene.pointerUpAt x y world).2.1.Upkeeps document holds := by
  unfold Scene.pointerUpAt pointerUp
  split
  · split
    · exact upkeeps.touch endures _ world
    · exact upkeeps
  · exact upkeeps

theorem Upkeeps.retrigger (upkeeps : scene.Upkeeps document holds) (id : CharacterId)
    (loaded : world.resources = resources) : (scene.retrigger id world).1.Upkeeps document holds := by
  unfold Scene.retrigger
  split
  · split
    · rename_i character found
      exact upkeeps.setCharacter found (character.part_appear scene.binder world)
        (endures.appear scene.binder loaded (upkeeps.all character (mem_of_character? found)))
    · exact upkeeps
  · exact upkeeps

omit endures

theorem Upkeeps.playSound (upkeeps : scene.Upkeeps document holds) (link : Nat) (world : World) :
    (scene.playSound link world).1.Upkeeps document holds := by
  unfold Scene.playSound
  split <;> exact ⟨upkeeps.active, upkeeps.declared, upkeeps.all⟩

theorem Upkeeps.finish (upkeeps : scene.Upkeeps document holds) (playback : PlaybackId) (world : World) :
    (scene.finish playback world).2.1.Upkeeps document holds :=
  ⟨upkeeps.active, upkeeps.declared, upkeeps.all⟩

end Scene

/-! ### Players -/

/-- **A player of a story upkeeps an assertion**: it holds of all characters in play. -/
structure Player.Upkeeps (document : Story.Document) (resources : Asset.Resources)
    (holds : Character → Prop) (player : Player) : Prop where
  story : player.document = document
  assets : player.world.resources = resources
  scene : ∀ scene, player.scene = some scene → scene.Upkeeps document holds

namespace Player

variable {document : Story.Document} {resources : Asset.Resources} {holds : Character → Prop}
  {player next : Player}

/-- The story and the assets stay the same, so that the scene in play alone matters. -/
theorem Upkeeps.to (upkeeps : player.Upkeeps document resources holds) (same : player.Same next)
    (scene : ∀ scene, next.scene = some scene → scene.Upkeeps document holds) :
    next.Upkeeps document resources holds :=
  ⟨same.document.trans upkeeps.story, same.resources.trans upkeeps.assets, scene⟩

theorem Upkeeps.withScene (upkeeps : player.Upkeeps document resources holds)
    {change : Scene → World → Scene × World} (same : player.Same (player.withScene change))
    (keeps : ∀ {scene : Scene}, scene.Upkeeps document holds →
      (change scene player.world).1.Upkeeps document holds) :
    (player.withScene change).Upkeeps document resources holds := by
  refine upkeeps.to same ?_
  unfold Player.withScene
  split
  · rename_i scene current
    rintro _ ⟨⟩
    exact keeps (upkeeps.scene scene current)
  · exact upkeeps.scene

theorem Upkeeps.askScene (upkeeps : player.Upkeeps document resources holds)
    {change : Scene → World → Bool × Scene × World} (same : player.Same (player.askScene change).2)
    (keeps : ∀ {scene : Scene}, scene.Upkeeps document holds →
      (change scene player.world).2.1.Upkeeps document holds) :
    (player.askScene change).2.Upkeeps document resources holds := by
  refine upkeeps.to same ?_
  unfold Player.askScene
  split
  · rename_i scene current
    rintro _ ⟨⟩
    exact keeps (upkeeps.scene scene current)
  · exact upkeeps.scene

variable (endures : Character.Endures resources holds)

include endures

theorem Upkeeps.touch (upkeeps : player.Upkeeps document resources holds) (id : CharacterId) :
    (player.touch id).2.Upkeeps document resources holds :=
  upkeeps.askScene (player.stays_touch id).same fun scene => scene.touch endures id player.world

theorem Upkeeps.touchEach (ids : List CharacterId) (upkeeps : player.Upkeeps document resources holds) :
    (touchEach ids player).2.Upkeeps document resources holds := by
  induction ids generalizing player with
  | nil => exact upkeeps
  | cons id rest ih => exact ih (upkeeps.touch endures id)

theorem Upkeeps.enterSpec (upkeeps : player.Upkeeps document resources holds) {id : String}
    {spec : Story.Scene} (known : player.document.scene? id = some spec) :
    (player.enterSpec id spec).Upkeeps document resources holds := by
  refine upkeeps.to (player.same_enterSpec id spec) ?_
  rintro _ ⟨⟩
  exact Scene.upkeeps_enter endures (upkeeps.story ▸ known) _ _
    (player.same_clear.resources.trans upkeeps.assets)

theorem Upkeeps.enterScene (upkeeps : player.Upkeeps document resources holds) (id : String) :
    (player.enterScene id).2.Upkeeps document resources holds :=
  enterScene_cases upkeeps fun _ known => upkeeps.enterSpec endures known

theorem Upkeeps.start (upkeeps : player.Upkeeps document resources holds) :
    player.start.2.Upkeeps document resources holds := by
  have shown : player.showSplash.Upkeeps document resources holds := by
    rw [showSplash_eq]
    exact ⟨upkeeps.story, upkeeps.assets, upkeeps.scene⟩
  have skipped : player.skipSplash.Upkeeps document resources holds :=
    ⟨shown.story, shown.assets, shown.scene⟩
  exact start_cases (fun _ => ⟨upkeeps.story, upkeeps.assets, upkeeps.scene⟩)
    (fun _ _ _ => ⟨shown.story, shown.assets, shown.scene⟩)
    fun _ _ => skipped.enterScene endures _

theorem Upkeeps.dispatch (upkeeps : player.Upkeeps document resources holds) (task : Task) :
    (player.dispatch task).Upkeeps document resources holds := by
  cases task with
  | playSound link =>
    have same : player.Same (player.withScene fun scene world => scene.playSound link world) :=
      (player.stays_dispatch (.playSound link)).same
    exact upkeeps.withScene same fun scene => scene.playSound link player.world
  | startMotion tick motion => exact ⟨upkeeps.story, upkeeps.assets, upkeeps.scene⟩
  | retrigger id =>
    have same : player.Same (player.withScene fun scene world => scene.retrigger id world) :=
      (player.stays_dispatch (.retrigger id)).same
    exact upkeeps.withScene same fun scene => scene.retrigger endures id upkeeps.assets

theorem Upkeeps.finish (upkeeps : player.Upkeeps document resources holds) (playback : PlaybackId) :
    (player.finish playback).Upkeeps document resources holds := by
  have same := player.same_finish playback
  unfold Player.finish at same ⊢
  split
  · have told : Player.Upkeeps document resources holds player.endSplash :=
      ⟨upkeeps.story, upkeeps.assets, upkeeps.scene⟩
    exact leaveSplash_cases (fun _ => ⟨told.story, told.assets, told.scene⟩) fun _ known =>
      told.enterSpec endures known
  · rename_i other
    rw [if_neg other] at same
    exact upkeeps.withScene same fun scene => scene.finish playback player.world

/-- In the middle of a frame. -/
theorem Upkeeps.during (upkeeps : player.Upkeeps document resources holds) (span : Nat) (done : List Task) :
    (player.during span done).Upkeeps document resources holds := by
  have clocked : Player.Upkeeps document resources holds
      { player with world := (player.world.advanceClock span).2 } :=
    ⟨upkeeps.story, upkeeps.assets, upkeeps.scene⟩
  exact List.foldlRecOn done Player.dispatch clocked fun _ upkeeps task _ => upkeeps.dispatch endures task

theorem Upkeeps.frame (upkeeps : player.Upkeeps document resources holds) (span : Nat) :
    (player.frame span).Upkeeps document resources holds := by
  have done := upkeeps.during endures span (player.due span)
  have before : (player.beforeMotions span).Upkeeps document resources holds :=
    List.foldlRecOn (player.ended span) Player.finish ⟨done.story, done.assets, done.scene⟩
      fun _ upkeeps playback _ => upkeeps.finish endures playback
  exact before.to ((player.beforeMotions span).stays_tick span).same before.scene

/-- **Every operation keeps what endures.** -/
theorem Upkeeps.perform (upkeeps : player.Upkeeps document resources holds) (operation : Operation) :
    (player.perform operation).Upkeeps document resources holds := by
  cases operation with
  | start => exact upkeeps.start endures
  | enterScene id => exact upkeeps.enterScene endures id
  | frame span => exact upkeeps.frame endures span
  | touch id => exact upkeeps.touch endures id
  | touchNamed name =>
    show (player.touchNamed name).2.Upkeeps document resources holds
    unfold touchNamed
    split
    · exact upkeeps.touchEach endures _
    · exact upkeeps
  | pointerUpAt x y =>
    exact upkeeps.askScene (player.stays_pointerUpAt x y).same fun scene =>
      scene.pointerUpAt endures x y player.world
  | render viewport => exact ⟨upkeeps.story, upkeeps.assets, upkeeps.scene⟩
  | destroy sprite => exact ⟨upkeeps.story, upkeeps.assets, upkeeps.scene⟩
  | shutdown =>
    exact upkeeps.to player.same_clear fun scene current => nomatch (scene_clear player).symm.trans current

omit endures

/-! ### Every state -/

/-- **The states that a player comes to**, while its events and remarks are taken from it at will: after
operations, and in the middle of frames, when some of the tasks that are due are done. -/
inductive Visits (first : Player) : Player → Prop
  | start : first.Visits first
  | perform {player : Player} (before : first.Visits player) (operation : Operation) :
      first.Visits (player.perform operation)
  | takeEvents {player : Player} (before : first.Visits player) : first.Visits player.takeEvents.2
  | takeRemarks {player : Player} (before : first.Visits player) : first.Visits player.takeRemarks.2
  | during {player : Player} (before : first.Visits player) (span : Nat) (done rest : List Task)
      (split : player.due span = done ++ rest) : first.Visits (player.during span done)

theorem visits_run (first : Player) (operations : List Operation) : first.Visits (first.run operations) :=
  List.foldlRecOn operations Player.perform .start fun _ before operation _ => before.perform operation

/-- The events need not be taken. -/
theorem Reaches.visits {first : Player} (reaches : first.Reaches player) : first.Visits player := by
  cases reaches with
  | between operations => exact first.visits_run operations
  | within operations span done rest split => exact (first.visits_run operations).during span done rest split

/-- **What endures holds of all characters in play, in every state that a player comes to.** -/
theorem Visits.upkeeps (endures : Character.Endures resources holds) {audio : Audio} {viewport : Viewport}
    {options : SceneOptions}
    (visits : (ofResources document resources audio viewport options).Visits player) :
    player.Upkeeps document resources holds := by
  induction visits with
  | start => exact ⟨rfl, rfl, nofun⟩
  | perform _ operation ih => exact ih.perform endures operation
  | takeEvents _ ih => exact ⟨ih.story, ih.assets, ih.scene⟩
  | takeRemarks _ ih => exact ⟨ih.story, ih.assets, ih.scene⟩
  | during _ span done rest split ih => exact ih.during endures span done

end Player

end Storybook
