/-
**What is done without anything coming onto the stage.**

Nothing comes onto the stage but the picture of a splash or of a scene, and characters that appear. All
that is done otherwise leaves the sprites as they are for touches, or takes some of them away, and it
reports neither that a character is shown nor that an effect is left out.

* `Stage.look?`: how a sprite is for touches;
* `Stage.Wears`: no sprite comes, and none changes in this;
* `World.Abides`: between two worlds nothing comes onto the stage;
* `Character.abides_disappear`, `Character.abides_touch`, `SoundChain.abides_play`, `World.abides_tick`,
  ...: what is done in this way.
-/

import Storybook.Proofs.Working

namespace Storybook

/-! ### Looks -/

/-- How a sprite is for touches: whether it can be touched, and its glow. -/
def Sprite.look (sprite : Sprite) : Bool × Option Glow :=
  (sprite.interactive, sprite.glow)

namespace Stage

variable {stage first second third : Stage} {id other : SpriteId}

/-- How the sprite of a handle is for touches, if it is on the stage. -/
def look? (stage : Stage) (id : SpriteId) : Option (Bool × Option Glow) :=
  (stage.find? id).map Sprite.look

theorem find?_modify (stage : Stage) (id other : SpriteId) (change : Sprite → Sprite) :
    (stage.modify id change).find? other =
      (stage.find? other).map fun sprite => if other = id then change sprite else sprite := by
  unfold find? modify
  induction stage.sprites with
  | nil => rfl
  | cons entry rest ih =>
    rw [List.map_cons, List.lookup_cons, List.lookup_cons]
    by_cases same : other = entry.1
    · simp [same]
    · have different : (other == entry.1) = false := beq_false_of_ne same
      simp only [different]
      exact ih

theorem find?_destroy (stage : Stage) (id other : SpriteId) :
    (stage.destroy id).2.find? other = if other = id then none else stage.find? other := by
  unfold find? destroy
  induction stage.sprites with
  | nil => simp
  | cons entry rest ih =>
    rw [List.filter_cons, List.lookup_cons]
    by_cases gone : entry.1 = id
    · rw [if_neg (by simpa using gone), ih]
      by_cases same : other = id
      · rw [if_pos same, if_pos same]
      · have different : (other == entry.1) = false := beq_false_of_ne (gone ▸ same)
        rw [if_neg same, if_neg same, different]
    · rw [if_pos (by simpa using gone), List.lookup_cons, ih]
      by_cases same : other = entry.1
      · subst same
        simp [gone]
      · have different : (other == entry.1) = false := beq_false_of_ne same
        simp only [different]

theorem find?_create (stage : Stage) (sprite : Sprite) (other : SpriteId) :
    (stage.create sprite).2.find? other =
      (stage.find? other).or (if other = (stage.create sprite).1 then some sprite else none) := by
  unfold find? create
  rw [List.lookup_append, List.lookup_cons, List.lookup_nil]
  by_cases new : other = ⟨stage.issued + 1⟩
  · simp [new]
  · have different : (other == (⟨stage.issued + 1⟩ : SpriteId)) = false := beq_false_of_ne new
    simp [new, different]

theorem find?_attach (stage : Stage) (id other : SpriteId) :
    (stage.attach id).2.find? other = stage.find? other := by
  unfold attach
  split <;> rfl

/-- A change that a touch does not notice leaves all looks. -/
theorem look?_modify {change : Sprite → Sprite} (same : ∀ sprite, (change sprite).look = sprite.look) :
    (stage.modify id change).look? other = stage.look? other := by
  rw [look?, look?, find?_modify, Option.map_map]
  congr 1
  funext sprite
  show Sprite.look (if other = id then change sprite else sprite) = sprite.look
  split
  · exact same sprite
  · rfl

/-- A change of a sprite leaves the others alone. -/
theorem look?_modify_of_ne {change : Sprite → Sprite} (different : other ≠ id) :
    (stage.modify id change).look? other = stage.look? other := by
  rw [look?, look?, find?_modify, Option.map_map]
  congr 1
  funext sprite
  exact congrArg Sprite.look (if_neg different)

/-- A change that gives a sprite a look. -/
theorem look?_modify_self {change : Sprite → Sprite} {old new : Bool × Option Glow}
    (worn : stage.look? id = some old) (gives : ∀ sprite, (change sprite).look = new) :
    (stage.modify id change).look? id = some new := by
  obtain ⟨sprite, found, _⟩ := Option.map_eq_some_iff.mp worn
  rw [look?, find?_modify, found]
  exact congrArg some ((congrArg Sprite.look (if_pos rfl)).trans (gives sprite))

/-- A new sprite leaves the others alone. -/
theorem look?_create_of_ne (stage : Stage) (sprite : Sprite) (different : other ≠ ⟨stage.issued + 1⟩) :
    (stage.create sprite).2.look? other = stage.look? other := by
  have apart : other ≠ (stage.create sprite).1 := different
  rw [look?, find?_create, if_neg apart, Option.or_none, look?]

/-- A new sprite looks as it was made. -/
theorem look?_create_self (sprite : Sprite) (new : stage.look? ⟨stage.issued + 1⟩ = none) :
    (stage.create sprite).2.look? ⟨stage.issued + 1⟩ = some sprite.look := by
  have absent : stage.find? (stage.create sprite).1 = none := Option.map_eq_none_iff.mp new
  show (stage.create sprite).2.look? (stage.create sprite).1 = some sprite.look
  rw [look?, find?_create, absent, Option.none_or, if_pos rfl]
  rfl

/-- **Between the two stages no sprite comes**, and those that stay look the same for touches. -/
structure Wears (before after : Stage) : Prop where
  issued : after.issued = before.issued
  looks : ∀ id look, after.look? id = some look → before.look? id = some look

theorem Wears.of_eq (issued : second.issued = first.issued)
    (looks : ∀ id, second.look? id = first.look? id) : first.Wears second :=
  ⟨issued, fun id _ worn => looks id ▸ worn⟩

theorem Wears.refl (stage : Stage) : stage.Wears stage :=
  .of_eq rfl fun _ => rfl

theorem Wears.trans (left : first.Wears second) (right : second.Wears third) : first.Wears third :=
  ⟨right.issued.trans left.issued, fun id look worn => left.looks id look (right.looks id look worn)⟩

theorem wears_modify (stage : Stage) (id : SpriteId) {change : Sprite → Sprite}
    (same : ∀ sprite, (change sprite).look = sprite.look) : stage.Wears (stage.modify id change) :=
  .of_eq rfl fun _ => look?_modify same

theorem wears_destroy (stage : Stage) (id : SpriteId) : stage.Wears (stage.destroy id).2 := by
  refine ⟨rfl, fun other look worn => ?_⟩
  rw [look?, find?_destroy] at worn
  split at worn
  · cases worn
  · exact worn

theorem wears_detach (stage : Stage) (id : SpriteId) : stage.Wears (stage.detach id).2 :=
  .of_eq rfl fun _ => rfl

end Stage

/-- A motion changes nothing that a touch would notice, but for what is drawn no longer. -/
theorem Motion.wears_step (motion : Motion) (stage : Stage) (delta : Single) :
    stage.Wears (motion.step stage delta).stage := by
  unfold step
  split
  · exact .refl _
  · cases motion with
    | fade id speed =>
      dsimp only
      split <;> dsimp only
      · exact stage.wears_modify id fun _ => rfl
      · refine Stage.Wears.trans ?_ (Stage.wears_detach _ id)
        exact stage.wears_modify id fun _ => rfl
    | _ =>
      dsimp only
      exact stage.wears_modify _ fun _ => rfl

theorem Animator.wears_steps (delta : Single) (entries : List (TickId × Motion)) :
    ∀ stage : Stage, stage.Wears (steps delta entries stage).stage := by
  induction entries with
  | nil => exact fun stage => .refl stage
  | cons entry rest ih =>
    intro stage
    have frame := (entry.2.wears_step stage delta).trans (ih _)
    unfold steps
    dsimp only
    split <;> exact frame

/-! ### Worlds -/

/-- An event that tells what has come onto the stage, or has not. -/
def Event.isArrival : Event → Bool
  | .characterShown _ _ => true
  | .effectSkipped _ _ => true
  | _ => false

namespace World

/-- **Between the two worlds nothing comes onto the stage**, and the assets stay. -/
structure Abides (before after : World) : Prop where
  resources : after.resources = before.resources
  events : Reports (fun event => event.isArrival = false) before after
  stage : before.stage.Wears after.stage

variable {first second third : World}

/-- What is done with motions, timers and voices, and what is remarked, is of no account. -/
theorem Abides.of_eq (resources : second.resources = first.resources)
    (events : second.events = first.events) (stage : second.stage = first.stage) :
    first.Abides second :=
  ⟨resources, .of_eq events, stage ▸ .refl _⟩

theorem Abides.refl (world : World) : world.Abides world :=
  .of_eq rfl rfl rfl

theorem Abides.trans (left : first.Abides second) (right : second.Abides third) :
    first.Abides third where
  resources := right.resources.trans left.resources
  events := left.events.trans right.events
  stage := left.stage.trans right.stage

theorem abides_report (world : World) {event : Event} (other : event.isArrival = false) :
    world.Abides (world.report event) :=
  ⟨rfl, world.reports_report other, .refl _⟩

theorem abides_reportAll (world : World) {events : List Event}
    (others : ∀ event ∈ events, event.isArrival = false) : world.Abides (world.reportAll events) := by
  have same := world.reportAll_eq events
  refine ⟨?_, world.reports_reportAll events others, ?_⟩
  · rw [same]
  · rw [same]
    exact .refl _

theorem abides_remark (world : World) (level : Level) (speaker : Speaker) (text : String) :
    world.Abides (world.remark level speaker text) :=
  .of_eq rfl rfl rfl

theorem abides_modifySprite (world : World) (sprite : SpriteId) {change : Sprite → Sprite}
    (same : ∀ sprite, (change sprite).look = sprite.look) :
    world.Abides (world.modifySprite sprite change) :=
  ⟨rfl, .of_eq rfl, world.stage.wears_modify sprite same⟩

theorem abides_destroySprite (world : World) (sprite : SpriteId) :
    world.Abides (world.destroySprite sprite) :=
  ⟨rfl, .of_eq rfl, world.stage.wears_destroy sprite⟩

theorem abides_attachSprite (world : World) (sprite : SpriteId) :
    world.Abides (world.attachSprite sprite) := by
  refine ⟨rfl, .of_eq rfl, .of_eq (Stage.issued_attach _ _) fun id => ?_⟩
  exact congrArg (Option.map Sprite.look) (Stage.find?_attach _ sprite id)

theorem abides_cancelTimers (timers : List TimerId) (world : World) :
    world.Abides (timers.foldl cancelTimer world) := by
  rw [cancelTimers_eq]
  exact .of_eq rfl rfl rfl

theorem abides_playSound (world : World) (sound : String) :
    world.Abides (world.playSound sound).2 := by
  have played : world.Abides { world with audio := (world.audio.play sound).2 } := .of_eq rfl rfl rfl
  exact played.trans (abides_report _ rfl)

theorem abides_tick (world : World) (span : Nat) : world.Abides (world.tick span) := by
  have moved : world.Abides { world with
      animator := (world.animator.tick world.stage (Span.frames span)).2.1
      stage := (world.animator.tick world.stage (Span.frames span)).2.2 } :=
    ⟨rfl, .of_eq rfl, Animator.wears_steps _ _ _⟩
  refine moved.trans (abides_reportAll _ fun event member => ?_)
  obtain ⟨entry, _, ended⟩ := List.mem_flatMap.mp member
  unfold finishedEvents at ended
  split at ended
  · rcases List.mem_cons.mp ended with rfl | last
    · rfl
    · exact List.mem_singleton.mp last ▸ rfl
  · exact List.mem_singleton.mp ended ▸ rfl

end World

/-! ### Effects -/

namespace Effect

theorem abides_silence (sound : String) (world : World) : world.Abides (silence sound world) := by
  unfold silence
  split <;> exact .of_eq rfl rfl rfl

theorem abides_execute (effect : Effect) (world : World) :
    world.Abides (effect.execute world).2 := by
  cases effect with
  | audio sound => exact (abides_silence sound world).trans (World.abides_playSound _ sound)
  | move sprite velocity pause state =>
    show world.Abides (state.execute sprite velocity pause world).2
    unfold MoveState.execute
    split
    · unfold MoveState.start
      split <;> exact .of_eq rfl rfl rfl
    · exact .refl world
  | bounce sprite offset => exact world.abides_modifySprite sprite fun _ => rfl
  | transition sprite image texture => exact world.abides_modifySprite sprite fun _ => rfl
  | fadeOut sprite speed state =>
    show world.Abides (state.execute sprite speed world).2
    unfold FadeState.execute
    split <;> exact .of_eq rfl rfl rfl
  | spin sprite speed state =>
    cases state with
    | idle =>
      have turned : world.Abides
          (world.modifySprite sprite fun sprite => { sprite with anchor := ⟨0.5, 0.5⟩ }) :=
        world.abides_modifySprite sprite fun _ => rfl
      exact turned.trans (.of_eq rfl rfl rfl)
    | active tick =>
      have stopped : world.Abides (world.deregisterMotion tick) := .of_eq rfl rfl rfl
      exact stopped.trans (World.abides_modifySprite _ sprite fun _ => rfl)

theorem abides_cancel (effect : Effect) (world : World) : world.Abides (effect.cancel world).2 := by
  cases effect with
  | audio sound => exact abides_silence sound world
  | move sprite velocity pause state => cases state <;> exact .of_eq rfl rfl rfl
  | bounce sprite offset => exact .refl world
  | transition sprite image texture => exact .refl world
  | fadeOut sprite speed state => cases state <;> exact .of_eq rfl rfl rfl
  | spin sprite speed state => cases state <;> exact .of_eq rfl rfl rfl

end Effect

namespace Chain

theorem abides_fireEach (trigger : Trigger) (character : CharacterId) (effects : List Effect) :
    ∀ world : World, world.Abides (fireEach trigger character effects world).2 := by
  induction effects with
  | nil => exact fun world => .refl world
  | cons effect rest ih =>
    intro world
    exact ((world.abides_report rfl).trans (effect.abides_execute _)).trans (ih _)

theorem abides_cancelEach (effects : List Effect) :
    ∀ world : World, world.Abides (cancelEach effects world).2 := by
  induction effects with
  | nil => exact fun world => .refl world
  | cons effect rest ih => exact fun world => (effect.abides_cancel world).trans (ih _)

end Chain

theorem Bindings.abides_cancelChain (chain : Option Chain) (world : World) :
    world.Abides (cancelChain chain world) := by
  cases chain with
  | none => exact .refl world
  | some chain => exact Chain.abides_cancelEach chain.effects world

/-! ### Characters -/

namespace Character

theorem abides_disappear (character : Character) (world : World) :
    world.Abides (character.disappear world).2 := by
  have cancelled : world.Abides (character.bindings.cancel world) :=
    (Bindings.abides_cancelChain _ world).trans (Bindings.abides_cancelChain _ _)
  have rested (tick : TickId) :
      world.Abides ((character.bindings.cancel world).deregisterMotion tick) :=
    cancelled.trans (.of_eq rfl rfl rfl)
  unfold disappear
  cases character.gravity with
  | none =>
    cases character.sprite with
    | none => exact cancelled
    | some sprite => exact cancelled.trans (World.abides_destroySprite _ sprite)
  | some tick =>
    cases character.sprite with
    | none => exact rested tick
    | some sprite => exact (rested tick).trans (World.abides_destroySprite _ sprite)

theorem abides_withdraw (character : Character) (world : World) :
    world.Abides (character.withdraw world).2 := by
  unfold withdraw
  split
  · exact character.abides_disappear world
  · exact .refl world

theorem abides_fireOnLoad (character : Character) (world : World) :
    world.Abides (character.fireOnLoad world).2 := by
  unfold fireOnLoad
  split
  · exact .refl world
  · exact Chain.abides_fireEach _ _ _ world

theorem abides_startGravity (character : Character) (sprite : SpriteId) (world : World) :
    world.Abides (character.startGravity sprite world).2 := by
  unfold startGravity
  dsimp only
  split <;> exact .of_eq rfl rfl rfl

theorem abides_touch (character : Character) (world : World) :
    world.Abides (character.touch world).2.2 := by
  unfold touch
  split
  · exact Chain.abides_fireEach _ _ _ world
  · exact .refl world

end Character

/-! ### Sounds -/

namespace SoundChain

theorem abides_scheduleAll (links : List Nat) :
    ∀ (chain : SoundChain) (world : World), world.Abides (chain.scheduleAll links world).2 := by
  induction links with
  | nil => exact fun chain world => .refl world
  | cons link rest ih =>
    intro chain world
    have scheduled : world.Abides (chain.schedule link world).2 := .of_eq rfl rfl rfl
    exact scheduled.trans (ih _ _)

theorem abides_play (chain : SoundChain) (link : Nat) (world : World) :
    world.Abides (chain.play link world).2 := by
  unfold play
  dsimp only
  split
  · exact world.abides_remark _ _ _
  · rename_i sound _
    have set : world.Abides
        { world with audio := world.audio.setVolume sound.file sound.volume } := .of_eq rfl rfl rfl
    split <;> exact set.trans (World.abides_playSound _ sound.file)

theorem abides_finish (chain : SoundChain) (playback : PlaybackId) (world : World) :
    world.Abides (chain.finish playback world).2.2 := by
  unfold finish
  split
  · exact .refl world
  · exact abides_scheduleAll _ _ world

theorem abides_stop (chain : SoundChain) (world : World) : world.Abides (chain.stop world).2 :=
  (World.abides_cancelTimers chain.pending world).trans (.of_eq rfl rfl rfl)

end SoundChain

namespace Scene

theorem abides_setRetriggers (scene : Scene) (world : World) :
    world.Abides (scene.setRetriggers world).2 := by
  obtain ⟨remarks, same⟩ := scene.remarkRetriggered_eq world
  unfold setRetriggers
  rw [retriggerEach_eq, same]
  exact .of_eq rfl rfl rfl

theorem abides_disappearEach (characters : List Character) :
    ∀ world : World, world.Abides (disappearEach characters world).2 := by
  induction characters with
  | nil => exact fun world => .refl world
  | cons character rest ih => exact fun world => (character.abides_disappear world).trans (ih _)

/-- **Nothing comes onto the stage while a scene is torn down.** -/
theorem abides_teardown (scene : Scene) (world : World) : world.Abides (scene.teardown world).2 := by
  unfold teardown
  split
  · exact .refl world
  · have stopped := (World.abides_cancelTimers scene.retriggers world).trans
      (scene.sounds.abides_stop _)
    have gone := stopped.trans (abides_disappearEach scene.characters _)
    cases scene.background with
    | none => exact (gone.trans (World.abides_remark _ _ _ _)).trans (World.abides_report _ rfl)
    | some sprite =>
      have destroyed := gone.trans (World.abides_destroySprite _ sprite)
      exact (destroyed.trans (World.abides_remark _ _ _ _)).trans (World.abides_report _ rfl)

end Scene

end Storybook
