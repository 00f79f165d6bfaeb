/-
**Effects hold what they start.**

An effect that runs lets go of what has ended, and holds what it starts. An effect that is called off
lets go of everything, and nothing of it is left in the motions and the timers.

* `World.Acts`: what effects, and characters as a whole, leave alone;
* `Effect.held_execute`, `Effect.held_cancel`: one effect;
* `Chain.held_fireEach`, `Chain.held_cancelEach`: the effects of a chain.
-/

import Storybook.Proofs.Holding.Held
import Storybook.Proofs.Reports

namespace Storybook

/-! ### What characters leave alone -/

/-- Between the two worlds only characters act: assets stay, handles are never given out again,
timers come only to start motions, and all that is reported is of the cast. -/
structure World.Acts (before after : World) : Prop where
  resources : after.resources = before.resources
  stage : before.stage.Follows after.stage
  motions : before.animator.issued ≤ after.animator.issued
  timers : ∀ timer ∈ after.timers.timers, timer ∈ before.timers.timers ∨ timer.Starts
  events : World.Reports Event.OfCast before after

namespace World

theorem Acts.refl (world : World) : world.Acts world :=
  ⟨rfl, .refl _, Nat.le_refl _, fun _ member => Or.inl member, .refl world⟩

theorem Acts.trans {first second third : World} (left : first.Acts second)
    (right : second.Acts third) : first.Acts third where
  resources := right.resources.trans left.resources
  stage := left.stage.trans right.stage
  motions := Nat.le_trans left.motions right.motions
  timers timer member := (right.timers timer member).elim (left.timers timer) Or.inr
  events := left.events.trans right.events

variable (world : World)

theorem acts_report {event : Event} (cast : event.OfCast) : world.Acts (world.report event) :=
  { Acts.refl world with events := world.reports_report cast }

theorem acts_reportAll {events : List Event} (cast : ∀ event ∈ events, event.OfCast) :
    world.Acts (world.reportAll events) := by
  have reports := world.reports_reportAll events cast
  rw [reportAll_eq] at reports ⊢
  exact { Acts.refl world with events := reports }

theorem acts_remark (level : Level) (speaker : Speaker) (text : String) :
    world.Acts (world.remark level speaker text) :=
  { Acts.refl world with events := .of_eq rfl }

theorem acts_modifySprite (sprite : SpriteId) (change : Sprite → Sprite) :
    world.Acts (world.modifySprite sprite change) :=
  { Acts.refl world with
    stage := (world.stage.keeps_modify sprite change).follows
    events := .of_eq rfl }

theorem acts_createSprite (sprite : Sprite) : world.Acts (world.createSprite sprite).2 :=
  { Acts.refl world with
    stage := world.stage.follows_create sprite
    events := .of_eq rfl }

theorem acts_attachSprite (sprite : SpriteId) : world.Acts (world.attachSprite sprite) :=
  { Acts.refl world with
    stage := world.stage.follows_attach sprite
    events := .of_eq rfl }

theorem acts_destroySprite (sprite : SpriteId) : world.Acts (world.destroySprite sprite) :=
  { Acts.refl world with
    stage := world.stage.follows_destroy sprite
    events := .of_eq rfl }

theorem acts_registerMotion (motion : Motion) : world.Acts (world.registerMotion motion).2 :=
  { Acts.refl world with
    motions := Nat.le_succ _
    events := .of_eq rfl }

theorem acts_deregisterMotion (tick : TickId) : world.Acts (world.deregisterMotion tick) :=
  { Acts.refl world with events := .of_eq rfl }

theorem acts_cancelTimer (timer : TimerId) : world.Acts (world.cancelTimer timer) :=
  { Acts.refl world with
    timers := fun _ member => Or.inl (TimerQueue.mem_cancel.mp member).1
    events := .of_eq rfl }

theorem acts_playSound (sound : String) : world.Acts (world.playSound sound).2 :=
  { Acts.refl world with events := World.reports_report _ trivial }

theorem acts_silence (sound : String) : world.Acts (Effect.silence sound world) := by
  unfold Effect.silence
  split
  · exact { Acts.refl world with events := .of_eq rfl }
  · exact .refl world

end World

/-! ### Moves -/

variable {loose : List Loose} {rest : List Holding} {world : World}

namespace Held

/-- A place may let go of a motion that is not registered and that no timer is to start. -/
theorem forget {holding : Holding} {animator : Animator} {timers : TimerQueue Task}
    (held : Held loose (holding :: rest) animator timers)
    (ended : animator.isRegistered holding.tick = false)
    (passed : ∀ timer ∈ holding.timer, timers.isPending timer = false) :
    Held loose rest animator timers := by
  refine held.release rfl (fun entry => (and_iff_left_of_imp fun member same => ?_).symm) (.refl _) rfl
    (fun timer member => ⟨member, fun same => ?_⟩)
  · have registered := Animator.isRegistered_iff.mpr ⟨entry, member, same.symm⟩
    rw [ended] at registered
    cases registered
  · have pending := TimerQueue.isPending_iff.mpr ⟨timer, member, rfl⟩
    rw [passed timer.id same] at pending
    cases pending

/-- A place lets go of a motion that is taken out. -/
theorem deregister {holding : Holding} {animator : Animator} {timers : TimerQueue Task}
    (held : Held loose (holding :: rest) animator timers) (started : holding.timer = none) :
    Held loose rest (animator.deregister holding.tick).2 timers :=
  held.release rfl (fun _ => Animator.mem_deregister) (animator.sublist_deregister _) rfl
    (fun _ member => ⟨member, fun same => nomatch started.symm.trans same⟩)

end Held

namespace MoveState

theorem held_refresh (state : MoveState) {motion : Motion}
    (held : Held loose ((state.holding? motion).toList ++ rest) world.animator world.timers) :
    Held loose (((state.refresh world).holding? motion).toList ++ rest) world.animator
      world.timers := by
  cases state with
  | idle => exact held
  | pending timer tick =>
    simp only [refresh]
    split
    · exact held
    · rename_i passed
      rw [Bool.not_eq_true] at passed
      split
      · exact held.settle passed
      · rename_i ended
        rw [Bool.not_eq_true] at ended
        exact held.forget ended fun other same => Option.some.inj same ▸ passed
  | moving tick =>
    simp only [refresh]
    split
    · exact held
    · rename_i ended
      rw [Bool.not_eq_true] at ended
      exact held.forget ended fun other same => nomatch same

theorem held_start (sprite : SpriteId) (velocity : Single) (pause : Nat)
    (held : Held loose rest world.animator world.timers) :
    Held loose
      (((start sprite velocity pause world).1.holding? (.drift sprite velocity)).toList ++ rest)
      (start sprite velocity pause world).2.animator
      (start sprite velocity pause world).2.timers := by
  unfold start
  dsimp only
  split
  · exact held.register _ rfl
  · exact held.wait _ pause

theorem held_execute (sprite : SpriteId) (velocity : Single) (pause : Nat) (state : MoveState)
    (held : Held loose ((state.holding? (.drift sprite velocity)).toList ++ rest) world.animator
      world.timers) :
    Held loose
      (((execute sprite velocity pause state world).1.holding? (.drift sprite velocity)).toList
        ++ rest)
      (execute sprite velocity pause state world).2.animator
      (execute sprite velocity pause state world).2.timers := by
  have refreshed := held_refresh state held
  unfold execute
  split
  · rename_i ended
    rw [ended] at refreshed
    exact held_start sprite velocity pause refreshed
  · exact refreshed

theorem held_cancel (state : MoveState) {motion : Motion}
    (held : Held loose ((state.holding? motion).toList ++ rest) world.animator world.timers) :
    Held loose rest (state.cancel world).animator (state.cancel world).timers := by
  cases state with
  | idle => exact held
  | pending timer tick =>
    refine held.release rfl (fun _ => Animator.mem_deregister)
      (world.animator.sublist_deregister tick) rfl (fun other member => ?_)
    obtain ⟨old, different⟩ := TimerQueue.mem_cancel.mp member
    exact ⟨old, fun same => different (Option.some.inj same).symm⟩
  | moving tick => exact held.deregister rfl

theorem acts_execute (sprite : SpriteId) (velocity : Single) (pause : Nat) (state : MoveState)
    (world : World) : world.Acts (execute sprite velocity pause state world).2 := by
  unfold execute start
  split
  · dsimp only
    split
    · exact world.acts_registerMotion _
    · refine ⟨rfl, .refl _, Nat.le_succ _, fun timer member => ?_, .of_eq rfl⟩
      rcases TimerQueue.mem_schedule.mp member with rfl | old
      · exact Or.inr ⟨_, _, rfl⟩
      · exact Or.inl old
  · exact .refl world

theorem acts_cancel (state : MoveState) (world : World) : world.Acts (state.cancel world) := by
  cases state with
  | idle => exact .refl world
  | pending timer tick => exact (world.acts_cancelTimer timer).trans (World.acts_deregisterMotion _ tick)
  | moving tick => exact world.acts_deregisterMotion tick

theorem stage_execute (sprite : SpriteId) (velocity : Single) (pause : Nat) (state : MoveState)
    (world : World) : (execute sprite velocity pause state world).2.stage = world.stage := by
  unfold execute start
  split
  · dsimp only
    split <;> rfl
  · rfl

theorem stage_cancel (state : MoveState) (world : World) :
    (state.cancel world).stage = world.stage := by
  cases state <;> rfl

end MoveState

/-! ### Fades -/

namespace FadeState

theorem held_execute (sprite : SpriteId) (speed : Single) (state : FadeState)
    (held : Held loose ((state.holding? (.fade sprite speed)).toList ++ rest) world.animator
      world.timers) :
    Held loose
      (((execute sprite speed state world).1.holding? (.fade sprite speed)).toList ++ rest)
      (execute sprite speed state world).2.animator
      (execute sprite speed state world).2.timers := by
  cases state with
  | idle => exact held.register _ rfl
  | done => exact held
  | fading tick =>
    simp only [execute, refresh]
    by_cases runs : world.animator.isRegistered tick = true
    · rw [if_pos runs]
      exact held
    · rw [if_neg runs]
      rw [Bool.not_eq_true] at runs
      exact held.forget runs fun other same => nomatch same

theorem held_cancel (state : FadeState) {motion : Motion}
    (held : Held loose ((state.holding? motion).toList ++ rest) world.animator world.timers) :
    Held loose (((state.cancel world).1.holding? motion).toList ++ rest)
      (state.cancel world).2.animator (state.cancel world).2.timers := by
  cases state with
  | idle => exact held
  | done => exact held
  | fading tick => exact held.deregister rfl

/-- A fade that is called off holds nothing. -/
theorem holding?_cancel (state : FadeState) (motion : Motion) (world : World) :
    (state.cancel world).1.holding? motion = none := by
  cases state <;> rfl

theorem acts_execute (sprite : SpriteId) (speed : Single) (state : FadeState) (world : World) :
    world.Acts (execute sprite speed state world).2 := by
  unfold execute
  split
  · exact world.acts_registerMotion _
  · exact .refl world

theorem acts_cancel (state : FadeState) (world : World) : world.Acts (state.cancel world).2 := by
  cases state with
  | fading tick => exact world.acts_deregisterMotion tick
  | _ => exact .refl world

theorem stage_execute (sprite : SpriteId) (speed : Single) (state : FadeState) (world : World) :
    (execute sprite speed state world).2.stage = world.stage := by
  unfold execute
  split <;> rfl

theorem stage_cancel (state : FadeState) (world : World) :
    (state.cancel world).2.stage = world.stage := by
  cases state <;> rfl

end FadeState

/-! ### Spins -/

namespace SpinState

theorem held_execute (sprite : SpriteId) (speed : Single) (state : SpinState)
    (held : Held loose ((state.holding? (.spin sprite speed)).toList ++ rest) world.animator
      world.timers) :
    Held loose
      (((execute sprite speed state world).1.holding? (.spin sprite speed)).toList ++ rest)
      (execute sprite speed state world).2.animator
      (execute sprite speed state world).2.timers := by
  cases state with
  | idle => exact held.register _ rfl
  | active tick => exact held.deregister rfl

theorem held_cancel (state : SpinState) {motion : Motion}
    (held : Held loose ((state.holding? motion).toList ++ rest) world.animator world.timers) :
    Held loose rest (state.cancel world).animator (state.cancel world).timers := by
  cases state with
  | idle => exact held
  | active tick => exact held.deregister rfl

theorem acts_execute (sprite : SpriteId) (speed : Single) (state : SpinState) (world : World) :
    world.Acts (execute sprite speed state world).2 := by
  cases state with
  | idle => exact (world.acts_modifySprite sprite _).trans (World.acts_registerMotion _ _)
  | active tick => exact (world.acts_deregisterMotion tick).trans (World.acts_modifySprite _ sprite _)

theorem acts_cancel (state : SpinState) (world : World) : world.Acts (state.cancel world) := by
  cases state with
  | idle => exact .refl world
  | active tick => exact world.acts_deregisterMotion tick

theorem keeps_execute (sprite : SpriteId) (speed : Single) (state : SpinState) (world : World) :
    world.stage.Keeps (execute sprite speed state world).2.stage := by
  cases state <;> dsimp only [execute, World.registerMotion, World.modifySprite]
  · exact world.stage.keeps_modify sprite _
  · exact Stage.keeps_modify _ sprite _

theorem stage_cancel (state : SpinState) (world : World) :
    (state.cancel world).stage = world.stage := by
  cases state <;> rfl

end SpinState

/-! ### Effects -/

namespace Effect

theorem stage_silence (sound : String) (world : World) :
    (silence sound world).stage = world.stage := by
  unfold silence
  split <;> rfl

theorem held_silence (sound : String) (held : Held loose rest world.animator world.timers) :
    Held loose rest (silence sound world).animator (silence sound world).timers := by
  unfold silence
  split <;> exact held

/-- **An effect that runs holds what it starts.** -/
theorem held_execute (effect : Effect)
    (held : Held loose (effect.holding?.toList ++ rest) world.animator world.timers) :
    Held loose ((effect.execute world).1.holding?.toList ++ rest)
      (effect.execute world).2.animator (effect.execute world).2.timers := by
  cases effect with
  | audio sound => exact held_silence sound held
  | move sprite velocity pause state => exact state.held_execute sprite velocity pause held
  | bounce sprite offset => exact held
  | transition sprite image texture => exact held
  | fadeOut sprite speed state => exact state.held_execute sprite speed held
  | spin sprite speed state => exact state.held_execute sprite speed held

/-- **An effect that is called off lets go of everything.** -/
theorem held_cancel (effect : Effect)
    (held : Held loose (effect.holding?.toList ++ rest) world.animator world.timers) :
    Held loose rest (effect.cancel world).2.animator (effect.cancel world).2.timers := by
  cases effect with
  | audio sound => exact held_silence sound held
  | move sprite velocity pause state => exact state.held_cancel held
  | bounce sprite offset => exact held
  | transition sprite image texture => exact held
  | fadeOut sprite speed state =>
    have cancelled := state.held_cancel held
    rw [state.holding?_cancel] at cancelled
    exact cancelled
  | spin sprite speed state => exact state.held_cancel held

theorem acts_execute (effect : Effect) (world : World) : world.Acts (effect.execute world).2 := by
  cases effect with
  | audio sound => exact (world.acts_silence sound).trans (World.acts_playSound _ sound)
  | move sprite velocity pause state => exact state.acts_execute sprite velocity pause world
  | bounce sprite offset => exact world.acts_modifySprite sprite _
  | transition sprite image texture => exact world.acts_modifySprite sprite _
  | fadeOut sprite speed state => exact state.acts_execute sprite speed world
  | spin sprite speed state => exact state.acts_execute sprite speed world

theorem acts_cancel (effect : Effect) (world : World) : world.Acts (effect.cancel world).2 := by
  cases effect with
  | audio sound => exact world.acts_silence sound
  | move sprite velocity pause state => exact state.acts_cancel world
  | bounce sprite offset => exact .refl world
  | transition sprite image texture => exact .refl world
  | fadeOut sprite speed state => exact state.acts_cancel world
  | spin sprite speed state => exact state.acts_cancel world

theorem keeps_execute (effect : Effect) (world : World) :
    world.stage.Keeps (effect.execute world).2.stage := by
  cases effect with
  | audio sound => exact (stage_silence sound world).symm ▸ .refl _
  | move sprite velocity pause state =>
    exact (state.stage_execute sprite velocity pause world).symm ▸ .refl _
  | bounce sprite offset =>
    dsimp only [execute, World.modifySprite]
    exact world.stage.keeps_modify sprite _
  | transition sprite image texture =>
    dsimp only [execute, World.modifySprite]
    exact world.stage.keeps_modify sprite _
  | fadeOut sprite speed state => exact (state.stage_execute sprite speed world).symm ▸ .refl _
  | spin sprite speed state => exact state.keeps_execute sprite speed world

/-- Nothing on the stage changes when an effect is called off. -/
theorem stage_cancel (effect : Effect) (world : World) :
    (effect.cancel world).2.stage = world.stage := by
  cases effect with
  | audio sound => exact stage_silence sound world
  | move sprite velocity pause state => exact state.stage_cancel world
  | bounce sprite offset => rfl
  | transition sprite image texture => rfl
  | fadeOut sprite speed state => exact state.stage_cancel world
  | spin sprite speed state => exact state.stage_cancel world

/-- An effect keeps its sprite. -/
theorem sprite?_execute (effect : Effect) (world : World) :
    (effect.execute world).1.sprite? = effect.sprite? := by
  cases effect <;> rfl

end Effect

/-! ### Chains -/

theorem holdingsOf_cons (effect : Effect) (effects : List Effect) :
    holdingsOf (effect :: effects) = effect.holding?.toList ++ holdingsOf effects := by
  unfold holdingsOf
  rw [List.filterMap_cons]
  cases effect.holding? <;> rfl

namespace Chain

/-- **The effects of a chain that runs hold what they start.** The first one runs while the later
ones keep what they hold, then the other way round. -/
theorem held_fireEach (trigger : Trigger) (character : CharacterId) (effects : List Effect) :
    ∀ {rest : List Holding} {world : World},
      Held loose (holdingsOf effects ++ rest) world.animator world.timers →
        Held loose (holdingsOf (fireEach trigger character effects world).1 ++ rest)
          (fireEach trigger character effects world).2.animator
          (fireEach trigger character effects world).2.timers := by
  induction effects with
  | nil => exact fun held => held
  | cons effect later ih =>
    intro rest world held
    rw [holdingsOf_cons, List.append_assoc] at held
    let reported := world.report (.effectExecuted character trigger effect.kind)
    have before : Held loose (effect.holding?.toList ++ (holdingsOf later ++ rest))
        reported.animator reported.timers := held
    have others := ih ((effect.held_execute before).perm (List.perm_append_comm_assoc _ _ _))
    simp only [fireEach, holdingsOf_cons, List.append_assoc]
    exact others.perm (List.perm_append_comm_assoc _ _ _)

/-- **The effects of a chain that is called off let go of everything.** -/
theorem held_cancelEach (effects : List Effect) :
    ∀ {world : World}, Held loose (holdingsOf effects ++ rest) world.animator world.timers →
      Held loose rest (cancelEach effects world).2.animator (cancelEach effects world).2.timers := by
  induction effects with
  | nil => exact fun held => held
  | cons effect later ih =>
    intro world held
    rw [holdingsOf_cons, List.append_assoc] at held
    exact ih (effect.held_cancel held)

theorem acts_fireEach (trigger : Trigger) (character : CharacterId) (effects : List Effect) :
    ∀ world : World, world.Acts (fireEach trigger character effects world).2 := by
  induction effects with
  | nil => exact World.Acts.refl
  | cons effect later ih =>
    intro world
    have reported : world.Acts (world.report (.effectExecuted character trigger effect.kind)) :=
      world.acts_report trivial
    exact (reported.trans (effect.acts_execute _)).trans (ih _)

theorem acts_cancelEach (effects : List Effect) :
    ∀ world : World, world.Acts (cancelEach effects world).2 := by
  induction effects with
  | nil => exact World.Acts.refl
  | cons effect later ih => exact fun world => (effect.acts_cancel world).trans (ih _)

theorem keeps_fireEach (trigger : Trigger) (character : CharacterId) (effects : List Effect) :
    ∀ world : World, world.stage.Keeps (fireEach trigger character effects world).2.stage := by
  induction effects with
  | nil => exact fun world => .refl world.stage
  | cons effect later ih =>
    intro world
    exact (effect.keeps_execute (world.report (.effectExecuted character trigger effect.kind))).trans
      (ih _)

theorem stage_cancelEach (effects : List Effect) :
    ∀ world : World, (cancelEach effects world).2.stage = world.stage := by
  induction effects with
  | nil => exact fun _ => rfl
  | cons effect later ih => exact fun world => (ih _).trans (effect.stage_cancel world)

/-- The effects of a chain keep their sprites. -/
theorem sprite?_fireEach (trigger : Trigger) (character : CharacterId) (effects : List Effect) :
    ∀ world : World, (fireEach trigger character effects world).1.map Effect.sprite?
      = effects.map Effect.sprite? := by
  induction effects with
  | nil => exact fun _ => rfl
  | cons effect later ih =>
    intro world
    simp only [fireEach, List.map_cons]
    rw [effect.sprite?_execute, ih]

end Chain

end Storybook
