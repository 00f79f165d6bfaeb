/-
**What is of some sprites.**

A world may be looked at with nothing in it but what is of some sprites: the sprites themselves, their
motions, and the timers that are to start such motions. A character that enters the stage does the same in
this part of a world as in the whole of it, if its new sprite is one of these. So it does not matter what else
there is.

* `World.only`: a world with nothing in it but what is of some sprites;
* `World.only_createSprite`, `World.only_registerMotion`, `World.only_schedule`, ...: the steps of the world;
* `Effect.execute_only`, `Binder.bind_only`: effects that have not run yet;
* `Character.appear_only`: a character that is not on the stage appears.
-/

import Storybook.Proofs.Clock
import Storybook.Proofs.Neighbours.Characters
import Storybook.Proofs.Recurrences

namespace Storybook

variable {own : List SpriteId} {world : World} {sprite : SpriteId}

namespace World

/-- **A world with nothing in it but what is of the sprites `own`.** Its clocks, its sounds and the numbers
of handles that were given out are as they are. -/
def only (own : List SpriteId) (world : World) : World :=
  { world with
    stage := { world.stage with
      sprites := world.stage.sprites.filter fun entry => entry.1 ∈ own
      order := world.stage.order.filter (· ∈ own) }
    animator := { world.animator with
      entries := world.animator.entries.filter fun entry => entry.2.sprite ∈ own }
    timers := { world.timers with
      timers := world.timers.timers.filter fun timer => !timer.task.isForeign own } }

/-! ### The steps of the world -/

theorem only_report (world : World) (event : Event) :
    (world.report event).only own = (world.only own).report event :=
  rfl

theorem only_reportAll (events : List Event) :
    ∀ world : World, (world.reportAll events).only own = (world.only own).reportAll events := by
  induction events with
  | nil => exact fun _ => rfl
  | cons event rest ih => exact fun world => ih (world.report event)

theorem only_silence (sound : String) :
    (Effect.silence sound world).only own = Effect.silence sound (world.only own) :=
  apply_ite (only own) _ _ _

theorem only_createSprite (picture : Sprite) (mine : (world.createSprite picture).1 ∈ own) :
    (world.createSprite picture).2.only own = ((world.only own).createSprite picture).2 := by
  have sprites : (world.stage.create picture).2.sprites.filter (fun entry => entry.1 ∈ own) =
      world.stage.sprites.filter (fun entry => entry.1 ∈ own) ++
        [((world.createSprite picture).1, picture)] := by
    have last : [((world.createSprite picture).1, picture)].filter (fun entry => entry.1 ∈ own) =
        [((world.createSprite picture).1, picture)] := by simp only [List.filter, mine, decide_true]
    exact (List.filter_append _ _).trans (congrArg (_ ++ ·) last)
  unfold only
  rw [show (world.createSprite picture).2.stage.sprites.filter _ = _ from sprites]
  rfl

theorem find?_only (mine : sprite ∈ own) :
    (world.only own).stage.find? sprite = world.stage.find? sprite := by
  show (world.stage.sprites.filter fun entry => entry.1 ∈ own).lookup sprite =
    world.stage.sprites.lookup sprite
  induction world.stage.sprites with
  | nil => rfl
  | cons entry rest ih =>
    by_cases inside : entry.1 ∈ own
    · rw [List.filter_cons_of_pos (by simpa using inside), List.lookup_cons, List.lookup_cons, ih]
    · have different : (sprite == entry.1) = false := beq_false_of_ne fun same => inside (same ▸ mine)
      rw [List.filter_cons_of_neg (by simpa using inside), List.lookup_cons, different, ih]

theorem isAttached_only (mine : sprite ∈ own) :
    (world.only own).stage.isAttached sprite = world.stage.isAttached sprite := by
  show (world.stage.order.filter (· ∈ own)).contains sprite = world.stage.order.contains sprite
  simp [mine]

theorem only_attachSprite (mine : sprite ∈ own) :
    (world.attachSprite sprite).only own = (world.only own).attachSprite sprite := by
  have can : (world.only own).stage.canAttach sprite = world.stage.canAttach sprite := by
    unfold Stage.canAttach Stage.isLive
    rw [find?_only mine, isAttached_only mine]
  unfold attachSprite Stage.attach
  rw [can]
  split
  · have order : (world.stage.order ++ [sprite]).filter (· ∈ own) =
        world.stage.order.filter (· ∈ own) ++ [sprite] := by
      simp [mine]
    unfold only
    rw [order]
  · rfl

theorem only_modifySprite (sprite : SpriteId) (change : Sprite → Sprite) :
    (world.modifySprite sprite change).only own = (world.only own).modifySprite sprite change := by
  have sprites : (world.stage.modify sprite change).sprites.filter (fun entry => entry.1 ∈ own) =
      ((world.only own).stage.modify sprite change).sprites := List.filter_map
  unfold only
  rw [show (world.modifySprite sprite change).stage.sprites.filter _ = _ from sprites]
  rfl

theorem only_registerMotion {motion : Motion} (mine : motion.sprite ∈ own) :
    (world.registerMotion motion).2.only own = ((world.only own).registerMotion motion).2 := by
  have entries : (world.registerMotion motion).2.animator.entries.filter (fun entry => entry.2.sprite ∈ own) =
      world.animator.entries.filter (fun entry => entry.2.sprite ∈ own) ++
        [((world.registerMotion motion).1, motion)] := by
    have last : [((world.registerMotion motion).1, motion)].filter (fun entry => entry.2.sprite ∈ own) =
        [((world.registerMotion motion).1, motion)] := by simp only [List.filter, mine, decide_true]
    exact (List.filter_append _ _).trans (congrArg (_ ++ ·) last)
  unfold only
  rw [entries]
  rfl

theorem only_schedule {tick : TickId} {motion : Motion} (mine : motion.sprite ∈ own)
    (ordered : Timer.Ordered world.timers.timers) (pause : Nat) :
    (world.schedule pause (.startMotion tick motion)).2.only own =
      ((world.only own).schedule pause (.startMotion tick motion)).2 := by
  have timers : (world.schedule pause (.startMotion tick motion)).2.timers.timers.filter
      (fun timer => !timer.task.isForeign own) = _ :=
    Timer.filter_enqueue_of_keep ordered (by simp [Task.isForeign, mine])
  unfold only
  rw [timers]
  rfl

end World

/-! ### Effects that have not run yet -/

namespace Effect

/-- The start of a move. -/
theorem start_only (mine : sprite ∈ own) (ordered : Timer.Ordered world.timers.timers) (velocity : Single)
    (pause : Nat) : MoveState.start sprite velocity pause (world.only own) =
      ((MoveState.start sprite velocity pause world).1,
        (MoveState.start sprite velocity pause world).2.only own) := by
  unfold MoveState.start
  split
  · exact congrArg (Prod.mk _) (World.only_registerMotion mine).symm
  · let reserved : World := { world with animator := world.animator.reserve.2 }
    have moves : (Motion.drift sprite velocity).sprite ∈ own := mine
    have sorted : Timer.Ordered reserved.timers.timers := ordered
    exact congrArg (Prod.mk _) (World.only_schedule moves sorted pause).symm

/-- **An effect that has not run yet does the same in a part of the world**, if that holds its sprite. -/
theorem execute_only {effect : Effect} (new : effect.holding? = none)
    (mine : ∀ sprite ∈ effect.sprite?, sprite ∈ own) (ordered : Timer.Ordered world.timers.timers) :
    effect.execute (world.only own) = ((effect.execute world).1, (effect.execute world).2.only own) := by
  cases effect with
  | audio sound =>
    refine congrArg (Prod.mk _) ?_
    rw [← World.only_silence]
    rfl
  | bounce sprite offset => exact congrArg (Prod.mk _) (World.only_modifySprite _ _).symm
  | transition sprite image texture => exact congrArg (Prod.mk _) (World.only_modifySprite _ _).symm
  | move sprite velocity pause state =>
    cases state with
    | idle =>
      have started := start_only (mine sprite rfl) ordered velocity pause
      exact congrArg (fun done => (move sprite velocity pause done.1, done.2)) started
    | pending timer tick => cases new
    | moving tick => cases new
  | fadeOut sprite speed state =>
    cases state with
    | idle => exact congrArg (Prod.mk _) (World.only_registerMotion (mine sprite rfl)).symm
    | fading tick => cases new
    | done => rfl
  | spin sprite speed state =>
    cases state with
    | idle =>
      let turned := world.modifySprite sprite fun sprite => { sprite with anchor := ⟨0.5, 0.5⟩ }
      have registered : (turned.registerMotion (.spin sprite speed)).2.only own =
          ((turned.only own).registerMotion (.spin sprite speed)).2 :=
        World.only_registerMotion (mine sprite rfl)
      rw [World.only_modifySprite] at registered
      exact congrArg (Prod.mk _) registered.symm
    | active tick => cases new

end Effect

/-- The effects of a chain, none of which has run yet. -/
theorem Chain.fireEach_only (trigger : Trigger) (character : CharacterId) (effects : List Effect) :
    ∀ {world : World}, (∀ effect ∈ effects, effect.holding? = none ∧
      ∀ sprite ∈ effect.sprite?, sprite ∈ own) → Timer.Ordered world.timers.timers →
        fireEach trigger character effects (world.only own) =
          ((fireEach trigger character effects world).1,
            (fireEach trigger character effects world).2.only own) := by
  induction effects with
  | nil => exact fun _ _ => rfl
  | cons effect rest ih =>
    intro world all ordered
    obtain ⟨⟨new, mine⟩, others⟩ := List.forall_mem_cons.mp all
    let told := world.report (.effectExecuted character trigger effect.kind)
    have first : effect.execute (told.only own) = ((effect.execute told).1, (effect.execute told).2.only own) :=
      effect.execute_only new mine ordered
    have still : told.timers.Halts (effect.execute told).2.timers := effect.halts_execute told
    have later := ih others (still.ordered ordered)
    unfold fireEach
    rw [← World.only_report, first]
    dsimp only
    rw [later]

/-! ### Binding -/

namespace Binder

/-- What the binding of actions has come to, in a part of the world. -/
def Bound.only (own : List SpriteId) (bound : Bound) : Bound :=
  { bound with world := bound.world.only own }

theorem remarkSkipped_only (name : String) (trigger : Trigger) (skipped : List SkippedEffect) :
    ∀ world : World, (skipped.foldl (remarkSkipped name trigger) world).only own =
      skipped.foldl (remarkSkipped name trigger) (world.only own) := by
  induction skipped with
  | nil => exact fun _ => rfl
  | cons first rest ih => exact fun world => ih (remarkSkipped name trigger world first)

theorem bindAction_only (binder : Binder) (name : String) (sprite : SpriteId) (bound : Bound)
    (action : String × List Story.Effect) :
    (binder.bindAction name sprite bound action).only own =
      binder.bindAction name sprite (bound.only own) action := by
  unfold bindAction
  split
  · rfl
  · rename_i trigger _
    unfold Bound.only makeTouchable
    dsimp only
    rw [apply_ite (World.only own), World.only_modifySprite, remarkSkipped_only]
    rfl

/-- **Effects are bound alike in a part of the world.** -/
theorem bind_only (binder : Binder) (character : Story.Character) (sprite : SpriteId) (world : World) :
    (binder.bind character sprite world).only own = binder.bind character sprite (world.only own) := by
  have all (actions : List (String × List Story.Effect)) : ∀ bound : Bound,
      (actions.foldl (binder.bindAction character.name sprite) bound).only own =
        actions.foldl (binder.bindAction character.name sprite) (bound.only own) := by
    induction actions with
    | nil => exact fun _ => rfl
    | cons action rest ih =>
      intro bound
      rw [List.foldl_cons, List.foldl_cons, ih, bindAction_only]
  exact all character.actions ⟨.none, [], world⟩

end Binder

/-! ### Characters -/

namespace Character

theorem fireOnLoad_only {character : Character}
    (new : ∀ effect ∈ character.bindings.effects, effect.holding? = none ∧
      ∀ sprite ∈ effect.sprite?, sprite ∈ own) (ordered : Timer.Ordered world.timers.timers) :
    character.fireOnLoad (world.only own) =
      ((character.fireOnLoad world).1, (character.fireOnLoad world).2.only own) := by
  obtain ⟨id, spec, sprite, ⟨onLoad, touch⟩, gravity⟩ := character
  cases onLoad with
  | none => rfl
  | some chain =>
    have effects := (List.forall_mem_append.mp new).1
    have fired := Chain.fireEach_only chain.trigger id chain.effects effects ordered
    unfold fireOnLoad Chain.fire
    dsimp only
    rw [fired]

theorem startGravity_only (character : Character) (mine : sprite ∈ own) (world : World) :
    character.startGravity sprite (world.only own) =
      ((character.startGravity sprite world).1, (character.startGravity sprite world).2.only own) := by
  unfold startGravity
  dsimp only
  split
  · rfl
  · exact congrArg (Prod.mk _) (World.only_registerMotion mine).symm

/-- **A character enters the stage alike in a part of the world**, if its new sprite is of that part. -/
theorem enterStage_only (character : Character) (binder : Binder) (texture : Asset.Texture)
    (mine : ⟨world.stage.issued + 1⟩ ∈ own) (ordered : Timer.Ordered world.timers.timers) :
    character.enterStage binder texture (world.only own) =
      ((character.enterStage binder texture world).1,
        (character.enterStage binder texture world).2.only own) := by
  let made := world.createSprite (newSprite character.spec texture)
  let bound := binder.bind character.spec made.1 made.2
  let skips := bound.skipped.map (Event.effectSkipped character.name)
  let told := bound.world.reportAll skips
  let shown := (told.attachSprite made.1).report (.characterShown character.id character.name)
  let dressed := character.dressed made.1 bound.bindings
  have fresh : Binder.Fresh made.1 made.2 bound := binder.fresh_bind _ _ _
  have new : ∀ effect ∈ dressed.bindings.effects, effect.holding? = none ∧
      ∀ sprite ∈ effect.sprite?, sprite ∈ own := by
    intro effect member
    obtain ⟨idle, works⟩ := fresh.effects effect member
    exact ⟨idle, fun sprite inside => works sprite inside ▸ mine⟩
  have still : shown.timers = world.timers :=
    (character.still_show bound.world made.1 bound.skipped).2.trans fresh.timers
  have fired := fireOnLoad_only new (still ▸ ordered : Timer.Ordered shown.timers.timers)
  have falls := startGravity_only (dressed.fireOnLoad shown).1 mine (dressed.fireOnLoad shown).2
  have created : ((world.only own).createSprite (newSprite character.spec texture)) =
      (made.1, made.2.only own) := congrArg (Prod.mk _) (World.only_createSprite _ mine).symm
  have binds : binder.bind character.spec made.1 (made.2.only own) = bound.only own :=
    (binder.bind_only character.spec made.1 made.2).symm
  let small := (((bound.only own).world.reportAll skips).attachSprite made.1).report
    (.characterShown character.id character.name)
  have shows : small = shown.only own := by
    have placed : (told.attachSprite made.1).only own = (told.only own).attachSprite made.1 :=
      World.only_attachSprite mine
    rw [World.only_reportAll] at placed
    exact (congrArg (World.report · _) placed).symm
  unfold enterStage
  rw [created]
  dsimp only
  rw [binds]
  show (dressed.fireOnLoad small).1.startGravity made.1 (dressed.fireOnLoad small).2 = _
  rw [shows, fired]
  exact falls

/-- **A character that is not on the stage appears alike in a part of the world.** -/
theorem appear_only {character : Character} (absent : character.sprite = none) (binder : Binder)
    (mine : ⟨world.stage.issued + 1⟩ ∈ own) (ordered : Timer.Ordered world.timers.timers) :
    character.appear binder (world.only own) =
      ((character.appear binder world).1, (character.appear binder world).2.only own) := by
  unfold appear
  rw [absent, Option.isSome_none, if_neg Bool.false_ne_true, if_neg Bool.false_ne_true]
  dsimp only
  rw [show (world.only own).resources = world.resources from rfl]
  cases world.resources.texture? character.spec.image with
  | none => rfl
  | some texture => exact character.enterStage_only binder texture mine ordered

end Character

end Storybook
