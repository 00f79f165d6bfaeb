/-
**Effects spare the sprites of others.**

Effects work on sprites, motions and timers by their handles alone. An effect that holds what is
registered under its handles changes nothing but its own sprite, the motions of that sprite, and the
timers that are to start such motions.

* `World.Spares`: nothing has changed but what is of some sprites;
* `Held.sprite_of_tick`, `Held.task_of_timer`: what stands under a handle that a place holds is of its
  sprite;
* `Effect.spares_execute`, `Effect.spares_cancel`: one effect;
* `Chain.spares_fireEach`, `Chain.spares_cancelEach`: the effects of a chain.
-/

import Storybook.Proofs.Abiding
import Storybook.Proofs.Holding.Effects
import Storybook.Proofs.Queue

namespace Storybook

/-! ### Nothing else changes -/

/-- A task that starts no motion of the sprites `own`. -/
def Task.isForeign (own : List SpriteId) : Task → Bool
  | startMotion _ motion => motion.sprite ∉ own
  | _ => true

/-- **Between the two worlds nothing has changed but what is of the sprites `own`**: other sprites are as
they were and are drawn in the same order, other motions are registered as they were, and so are all
timers but those that are to start motions of `own`. -/
structure World.Spares (own : List SpriteId) (before after : World) : Prop where
  sprites : ∀ id ∉ own, after.stage.find? id = before.stage.find? id
  drawn : after.stage.order.filter (· ∉ own) = before.stage.order.filter (· ∉ own)
  motions : after.animator.entries.filter (·.2.sprite ∉ own) =
    before.animator.entries.filter (·.2.sprite ∉ own)
  timers : after.timers.timers.filter (·.task.isForeign own) =
    before.timers.timers.filter (·.task.isForeign own)

namespace World

variable {own : List SpriteId} {first second third : World}

theorem Spares.of_eq (stage : second.stage = first.stage) (animator : second.animator = first.animator)
    (timers : second.timers = first.timers) : Spares own first second := by
  refine ⟨fun id _ => ?_, ?_, ?_, ?_⟩
  · rw [stage]
  · rw [stage]
  · rw [animator]
  · rw [timers]

theorem Spares.refl (world : World) : Spares own world world :=
  .of_eq rfl rfl rfl

theorem Spares.trans (left : Spares own first second) (right : Spares own second third) :
    Spares own first third where
  sprites id other := (right.sprites id other).trans (left.sprites id other)
  drawn := right.drawn.trans left.drawn
  motions := right.motions.trans left.motions
  timers := right.timers.trans left.timers

/-! ### The steps of the world -/

variable (world : World)

theorem spares_modifySprite {sprite : SpriteId} (mine : sprite ∈ own) (change : Sprite → Sprite) :
    Spares own world (world.modifySprite sprite change) := by
  refine { Spares.refl world with sprites := fun id other => ?_ }
  have different : id ≠ sprite := fun same => other (same ▸ mine)
  have found := world.stage.find?_modify sprite id change
  simp only [if_neg different, Option.map_id'] at found
  exact found

theorem spares_createSprite (sprite : Sprite) (mine : (world.createSprite sprite).1 ∈ own) :
    Spares own world (world.createSprite sprite).2 := by
  refine { Spares.refl world with sprites := fun id other => ?_ }
  have different : id ≠ (world.stage.create sprite).1 := fun same => other (same ▸ mine)
  have found := world.stage.find?_create sprite id
  rw [if_neg different, Option.or_none] at found
  exact found

theorem spares_attachSprite {sprite : SpriteId} (mine : sprite ∈ own) :
    Spares own world (world.attachSprite sprite) := by
  refine { Spares.refl world with
           sprites := fun id _ => world.stage.find?_attach sprite id, drawn := ?_ }
  unfold attachSprite Stage.attach
  split
  · have last : [sprite].filter (· ∉ own) = [] := by simp [mine]
    dsimp only
    rw [List.filter_append, last, List.append_nil]
  · rfl

theorem spares_destroySprite {sprite : SpriteId} (mine : sprite ∈ own) :
    Spares own world (world.destroySprite sprite) := by
  refine { Spares.refl world with sprites := fun id other => ?_, drawn := ?_ }
  · have different : id ≠ sprite := fun same => other (same ▸ mine)
    exact (world.stage.find?_destroy sprite id).trans (if_neg different)
  · show (world.stage.order.filter _).filter _ = _
    rw [List.filter_filter]
    refine List.filter_congr fun id _ => ?_
    by_cases same : id = sprite
    · simp [same, mine]
    · simp [same]

theorem spares_registerMotion {motion : Motion} (mine : motion.sprite ∈ own) :
    Spares own world (world.registerMotion motion).2 := by
  refine { Spares.refl world with motions := ?_ }
  have last : [(world.animator.reserve.1, motion)].filter (·.2.sprite ∉ own) = [] := by simp [mine]
  show (world.animator.entries ++ [(world.animator.reserve.1, motion)]).filter _ = _
  rw [List.filter_append, last, List.append_nil]

theorem spares_deregisterMotion {tick : TickId}
    (mine : ∀ entry ∈ world.animator.entries, entry.1 = tick → entry.2.sprite ∈ own) :
    Spares own world (world.deregisterMotion tick) := by
  refine { Spares.refl world with motions := ?_ }
  show (world.animator.entries.filter _).filter _ = _
  rw [List.filter_filter]
  refine List.filter_congr fun entry member => ?_
  by_cases same : entry.1 = tick
  · simp [same, mine entry member same]
  · simp [same]

theorem spares_schedule (delay : Nat) {task : Task} (mine : task.isForeign own = false) :
    Spares own world (world.schedule delay task).2 :=
  { Spares.refl world with timers := Timer.filter_enqueue mine _ }

theorem spares_cancelTimer {id : TimerId}
    (mine : ∀ timer ∈ world.timers.timers, timer.id = id → timer.task.isForeign own = false) :
    Spares own world (world.cancelTimer id) := by
  refine { Spares.refl world with timers := ?_ }
  show (world.timers.timers.filter _).filter _ = _
  rw [List.filter_filter]
  refine List.filter_congr fun timer member => ?_
  by_cases same : timer.id = id
  · simp [same, mine timer member same]
  · simp [same]

end World

/-! ### What stands under a handle -/

namespace Held

variable {loose : List Loose} {holdings : List Holding} {animator : Animator}
  {timers : TimerQueue Task} {holding : Holding}

/-- **A motion that is registered under the handle of a place is of its sprite.** -/
theorem sprite_of_tick (held : Held loose holdings animator timers) (member : holding ∈ holdings)
    {entry : TickId × Motion} (registered : entry ∈ animator.entries)
    (same : entry.1 = holding.tick) : entry.2.sprite = holding.motion.sprite := by
  rcases held.motions entry registered with stray | ⟨other, inside, stands, moves⟩
  · exact absurd same.symm (held.apart _ stray holding member)
  · rw [List.inj_on_of_nodup_map held.distinct inside member (stands.trans same)] at moves
    rw [moves, Motion.sprite_atRest]

/-- **The timer that a place waits for starts a motion of its sprite.** -/
theorem task_of_timer (held : Held loose holdings animator timers) (member : holding ∈ holdings)
    {own : List SpriteId} (mine : holding.motion.sprite ∈ own) {timer : Timer Task}
    (queued : timer ∈ timers.timers) (waits : holding.timer = some timer.id) :
    timer.task.isForeign own = false := by
  rw [held.awaited.starts holding member timer queued waits]
  simp [Task.isForeign, mine]

end Held

/-! ### Effects -/

variable {own : List SpriteId} {loose : List Loose} {rest : List Holding} {world : World}

/-- The motion that a place holds may be taken out. -/
theorem World.spares_deregister {holding : Holding}
    (held : Held loose (holding :: rest) world.animator world.timers)
    (mine : holding.motion.sprite ∈ own) : Spares own world (world.deregisterMotion holding.tick) :=
  world.spares_deregisterMotion fun _ registered same =>
    (held.sprite_of_tick List.mem_cons_self registered same).symm ▸ mine

namespace MoveState

theorem spares_execute {sprite : SpriteId} (mine : sprite ∈ own) (velocity : Single) (pause : Nat)
    (state : MoveState) (world : World) :
    World.Spares own world (execute sprite velocity pause state world).2 := by
  unfold execute
  split
  · unfold start
    dsimp only
    split
    · exact world.spares_registerMotion mine
    · have foreign (tick : TickId) :
          (Task.startMotion tick (.drift sprite velocity)).isForeign own = false := by
        simp [Task.isForeign, Motion.sprite, mine]
      have reserved : World.Spares own world { world with animator := world.animator.reserve.2 } :=
        { World.Spares.refl world with motions := rfl }
      exact reserved.trans (World.spares_schedule _ pause (foreign _))
  · exact .refl world

theorem spares_cancel (state : MoveState) {motion : Motion} (mine : motion.sprite ∈ own)
    (held : Held loose ((state.holding? motion).toList ++ rest) world.animator world.timers) :
    World.Spares own world (state.cancel world) := by
  cases state with
  | idle => exact .refl world
  | pending timer tick =>
    have cancelled : World.Spares own world (world.cancelTimer timer) := by
      refine world.spares_cancelTimer fun other queued same => ?_
      exact held.task_of_timer List.mem_cons_self mine queued (congrArg some same.symm)
    refine cancelled.trans (World.spares_deregisterMotion _ fun entry registered same => ?_)
    exact (held.sprite_of_tick List.mem_cons_self registered same).symm ▸ mine
  | moving tick => exact World.spares_deregister held mine

end MoveState

namespace FadeState

theorem spares_execute {sprite : SpriteId} (mine : sprite ∈ own) (speed : Single) (state : FadeState)
    (world : World) : World.Spares own world (execute sprite speed state world).2 := by
  unfold execute
  split
  · exact world.spares_registerMotion mine
  · exact .refl world

theorem spares_cancel (state : FadeState) {motion : Motion} (mine : motion.sprite ∈ own)
    (held : Held loose ((state.holding? motion).toList ++ rest) world.animator world.timers) :
    World.Spares own world (state.cancel world).2 := by
  cases state with
  | fading tick => exact World.spares_deregister held mine
  | _ => exact .refl world

end FadeState

namespace SpinState

theorem spares_execute {sprite : SpriteId} (mine : sprite ∈ own) (speed : Single) (state : SpinState)
    (held : Held loose ((state.holding? (.spin sprite speed)).toList ++ rest) world.animator
      world.timers) :
    World.Spares own world (execute sprite speed state world).2 := by
  cases state with
  | idle =>
    exact (world.spares_modifySprite mine _).trans (World.spares_registerMotion _ mine)
  | active tick =>
    exact (World.spares_deregister held mine).trans (World.spares_modifySprite _ mine _)

theorem spares_cancel (state : SpinState) {motion : Motion} (mine : motion.sprite ∈ own)
    (held : Held loose ((state.holding? motion).toList ++ rest) world.animator world.timers) :
    World.Spares own world (state.cancel world) := by
  cases state with
  | idle => exact .refl world
  | active tick => exact World.spares_deregister held mine

end SpinState

namespace Effect

theorem spares_silence (sound : String) (world : World) :
    World.Spares own world (silence sound world) := by
  unfold silence
  split <;> exact .of_eq rfl rfl rfl

/-- **An effect that runs spares the sprites of others.** -/
theorem spares_execute (effect : Effect) (mine : ∀ sprite ∈ effect.sprite?, sprite ∈ own)
    (held : Held loose (effect.holding?.toList ++ rest) world.animator world.timers) :
    World.Spares own world (effect.execute world).2 := by
  cases effect with
  | audio sound => exact (spares_silence sound world).trans (.of_eq rfl rfl rfl)
  | move sprite velocity pause state => exact state.spares_execute (mine sprite rfl) velocity pause world
  | bounce sprite offset => exact world.spares_modifySprite (mine sprite rfl) _
  | transition sprite image texture => exact world.spares_modifySprite (mine sprite rfl) _
  | fadeOut sprite speed state => exact state.spares_execute (mine sprite rfl) speed world
  | spin sprite speed state => exact state.spares_execute (mine sprite rfl) speed held

/-- **An effect that is called off spares the sprites of others.** -/
theorem spares_cancel (effect : Effect) (mine : ∀ sprite ∈ effect.sprite?, sprite ∈ own)
    (held : Held loose (effect.holding?.toList ++ rest) world.animator world.timers) :
    World.Spares own world (effect.cancel world).2 := by
  cases effect with
  | audio sound => exact spares_silence sound world
  | move sprite velocity pause state =>
    have drifts : (Motion.drift sprite velocity).sprite ∈ own := mine sprite rfl
    exact state.spares_cancel drifts held
  | bounce sprite offset => exact .refl world
  | transition sprite image texture => exact .refl world
  | fadeOut sprite speed state =>
    have fades : (Motion.fade sprite speed).sprite ∈ own := mine sprite rfl
    exact state.spares_cancel fades held
  | spin sprite speed state =>
    have spins : (Motion.spin sprite speed).sprite ∈ own := mine sprite rfl
    exact state.spares_cancel spins held

end Effect

/-! ### Chains -/

namespace Chain

/-- **A chain that runs spares the sprites of others.** While the first effect runs, the later ones keep
what they hold. -/
theorem spares_fireEach (trigger : Trigger) (character : CharacterId) (effects : List Effect)
    (mine : ∀ effect ∈ effects, ∀ sprite ∈ effect.sprite?, sprite ∈ own) :
    ∀ {rest : List Holding} {world : World},
      Held loose (holdingsOf effects ++ rest) world.animator world.timers →
        World.Spares own world (fireEach trigger character effects world).2 := by
  induction effects with
  | nil => exact fun {_ world} _ => .refl world
  | cons effect later ih =>
    intro rest world held
    obtain ⟨head, tail⟩ := List.forall_mem_cons.mp mine
    rw [holdingsOf_cons, List.append_assoc] at held
    let reported := world.report (.effectExecuted character trigger effect.kind)
    have before : Held loose (effect.holding?.toList ++ (holdingsOf later ++ rest))
        reported.animator reported.timers := held
    have others := ih tail ((effect.held_execute before).perm (List.perm_append_comm_assoc _ _ _))
    have told : World.Spares own world reported := .of_eq rfl rfl rfl
    exact (told.trans (effect.spares_execute head before)).trans others

/-- **A chain that is called off spares the sprites of others.** -/
theorem spares_cancelEach (effects : List Effect)
    (mine : ∀ effect ∈ effects, ∀ sprite ∈ effect.sprite?, sprite ∈ own) :
    ∀ {world : World}, Held loose (holdingsOf effects ++ rest) world.animator world.timers →
      World.Spares own world (cancelEach effects world).2 := by
  induction effects with
  | nil => exact fun {world} _ => .refl world
  | cons effect later ih =>
    intro world held
    obtain ⟨head, tail⟩ := List.forall_mem_cons.mp mine
    rw [holdingsOf_cons, List.append_assoc] at held
    exact (effect.spares_cancel head held).trans (ih tail (effect.held_cancel held))

end Chain

end Storybook
