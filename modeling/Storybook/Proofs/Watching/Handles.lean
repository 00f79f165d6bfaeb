/-
**Handles in use.**

Motions come and go under the handles of those who registered them. An effect that runs or is called off
uses the handle that it holds, and new ones, and leaves the motions under all other handles as they are.

* `Animator.under`: the motions under some handles;
* `World.Awaits`: a timer is to register a motion;
* `World.Uses`: motions have come and gone only under some handles, and under new ones;
* `Effect.uses_execute`, `Effect.uses_cancel`: effects use what they hold;
* `Effect.ticks_execute`: an effect that has run holds what it held, or a new handle.
-/

import Storybook.Proofs.Fading.Effects

namespace Storybook

/-! ### Handles in use -/

namespace Animator

variable {held : List TickId} {tick : TickId}

/-- The motions that are registered under some handles. -/
def under (held : List TickId) (animator : Animator) : List (TickId × Motion) :=
  animator.entries.filter fun entry => entry.1 ∈ held

/-- Between the two animators a handle is given out. -/
def Issues (before after : Animator) (tick : TickId) : Prop :=
  before.issued < tick.number ∧ tick.number ≤ after.issued

theorem isRegistered_of_mem_under {animator : Animator} {entry : TickId × Motion}
    (member : entry ∈ animator.under held) : animator.isRegistered entry.1 = true :=
  isRegistered_iff.mpr ⟨entry, List.mem_of_mem_filter member, rfl⟩

variable (animator : Animator)

/-- Only which handles there are matters. -/
theorem under_append_of_subset {more : List TickId} (inside : ∀ tick ∈ more, tick ∈ held) :
    animator.under (more ++ held) = animator.under held := by
  refine List.filter_congr fun entry _ => decide_eq_decide.mpr ?_
  exact List.mem_append.trans (or_iff_right_of_imp (inside entry.1))

/-- What is taken out under a handle was under this handle only. -/
theorem under_deregister (held : List TickId) (tick : TickId) :
    (animator.deregister tick).2.under held = (animator.under held).filter fun entry => entry.1 ≠ tick := by
  unfold under deregister
  dsimp only
  rw [List.filter_filter, List.filter_filter]
  refine List.filter_congr fun entry _ => ?_
  exact Bool.and_comm _ _

/-- Nothing is left when the only motion is taken out. -/
theorem under_deregister_only {motion : Motion} (only : animator.under held = [(tick, motion)]) :
    (animator.deregister tick).2.under held = [] := by
  rw [under_deregister, only]
  simp

theorem under_deregister_of_notMem (other : tick ∉ held) :
    (animator.deregister tick).2.under held = animator.under held := by
  rw [under_deregister]
  refine List.filter_eq_self.mpr fun entry member => decide_eq_true ?_
  rintro rfl
  exact other (of_decide_eq_true (List.mem_filter.mp member).2)

theorem under_append_of_notMem (other : tick ∉ held) (motion : Motion) (issued : Nat) :
    (⟨issued, animator.entries ++ [(tick, motion)]⟩ : Animator).under held = animator.under held := by
  unfold under
  rw [List.filter_append, List.filter_singleton, decide_eq_false other, cond_false, List.append_nil]

/-- A motion that is registered anew is the last one. -/
theorem under_register
    (numbered : ∀ tick, animator.isRegistered tick = true → tick.number ≤ animator.issued)
    (held : List TickId) (motion : Motion) :
    let (tick, after) := animator.register motion
    after.under (tick :: held) = animator.under held ++ [(tick, motion)] := by
  have old : animator.under (⟨animator.issued + 1⟩ :: held) = animator.under held := by
    refine List.filter_congr fun entry member => decide_eq_decide.mpr ?_
    have given := numbered entry.1 (isRegistered_iff.mpr ⟨entry, member, rfl⟩)
    refine List.mem_cons.trans (or_iff_right fun new => ?_)
    rw [new] at given
    exact Nat.not_succ_le_self _ given
  show List.filter _ (animator.entries ++ [(⟨animator.issued + 1⟩, motion)]) = _
  rw [List.filter_append, List.filter_singleton, decide_eq_true List.mem_cons_self]
  exact congrArg (· ++ _) old

end Animator

namespace World

/-- A timer is to register a motion under a handle. -/
def Awaits (world : World) (tick : TickId) : Prop :=
  ∃ timer ∈ world.timers.timers, ∃ motion, timer.task = .startMotion tick motion

/-- **Motions have come and gone only under the handles `own`, and under new ones.** Only new ones are
awaited that were not before. -/
structure Uses (own : TickId → Prop) (before after : World) : Prop where
  issued : before.animator.issued ≤ after.animator.issued
  others : ∀ held : List TickId,
    (∀ tick ∈ held, ¬ own tick ∧ tick.number ≤ before.animator.issued) →
      after.animator.under held = before.animator.under held
  registered : ∀ tick, after.animator.isRegistered tick = true →
    before.animator.isRegistered tick = true ∨ own tick ∨ before.animator.Issues after.animator tick
  awaited : ∀ tick, after.Awaits tick →
    before.Awaits tick ∨ before.animator.Issues after.animator tick

namespace Uses

variable {own more : TickId → Prop} {first second third : World}

theorem of_eq (animator : second.animator = first.animator)
    (awaited : ∀ tick, second.Awaits tick → first.Awaits tick) : Uses own first second where
  issued := animator ▸ Nat.le_refl _
  others _ _ := animator ▸ rfl
  registered _ there := Or.inl (animator ▸ there)
  awaited tick waits := Or.inl (awaited tick waits)

theorem refl (world : World) : Uses own world world :=
  of_eq rfl fun _ waits => waits

theorem trans (left : Uses own first second) (right : Uses own second third) :
    Uses own first third := by
  have low := left.issued
  have high := right.issued
  refine ⟨Nat.le_trans low high, fun held foreign => ?_, fun tick there => ?_, fun tick waits => ?_⟩
  · have later : ∀ tick ∈ held, ¬ own tick ∧ tick.number ≤ second.animator.issued :=
      fun tick member => ⟨(foreign tick member).1, Nat.le_trans (foreign tick member).2 low⟩
    exact (right.others held later).trans (left.others held foreign)
  · rcases right.registered tick there with there | mine | new
    · rcases left.registered tick there with there | mine | new
      · exact Or.inl there
      · exact Or.inr (Or.inl mine)
      · exact Or.inr (Or.inr ⟨new.1, Nat.le_trans new.2 high⟩)
    · exact Or.inr (Or.inl mine)
    · exact Or.inr (Or.inr ⟨Nat.lt_of_le_of_lt low new.1, new.2⟩)
  · rcases right.awaited tick waits with waits | new
    · rcases left.awaited tick waits with waits | new
      · exact Or.inl waits
      · exact Or.inr ⟨new.1, Nat.le_trans new.2 high⟩
    · exact Or.inr ⟨Nat.lt_of_le_of_lt low new.1, new.2⟩

theorem mono (uses : Uses own first second) (inside : ∀ tick, own tick → more tick) :
    Uses more first second where
  issued := uses.issued
  others held foreign := uses.others held fun tick member =>
    ⟨mt (inside tick) (foreign tick member).1, (foreign tick member).2⟩
  registered tick there := (uses.registered tick there).imp_right (Or.imp_left (inside tick))
  awaited := uses.awaited

end Uses

variable {own : TickId → Prop} {tick : TickId} (world : World)

/-- A handle that was given out before is not the next one. -/
theorem next_notMem {held : List TickId}
    (foreign : ∀ tick ∈ held, ¬ own tick ∧ tick.number ≤ world.animator.issued) :
    (⟨world.animator.issued + 1⟩ : TickId) ∉ held :=
  fun member => Nat.not_succ_le_self _ (foreign _ member).2

theorem uses_registerMotion (motion : Motion) : Uses own world (world.registerMotion motion).2 where
  issued := Nat.le_succ _
  others held foreign := world.animator.under_append_of_notMem (world.next_notMem foreign) motion _
  registered tick there := by
    obtain ⟨entry, member, rfl⟩ := Animator.isRegistered_iff.mp there
    rcases List.mem_append.mp member with old | new
    · exact Or.inl (Animator.isRegistered_iff.mpr ⟨entry, old, rfl⟩)
    · rw [List.mem_singleton.mp new]
      exact Or.inr (Or.inr ⟨Nat.lt_succ_self _, Nat.le_refl _⟩)
  awaited _ waits := Or.inl waits

theorem uses_deregisterMotion (mine : own tick) : Uses own world (world.deregisterMotion tick) where
  issued := Nat.le_refl _
  others held foreign :=
    world.animator.under_deregister_of_notMem fun member => (foreign tick member).1 mine
  registered other there := by
    obtain ⟨entry, member, rfl⟩ := Animator.isRegistered_iff.mp there
    exact Or.inl (Animator.isRegistered_iff.mpr ⟨entry, (Animator.mem_deregister.mp member).1, rfl⟩)
  awaited _ waits := Or.inl waits

/-- Registers a motion under a handle that was given out before. -/
def startMotion (world : World) (tick : TickId) (motion : Motion) : World :=
  { world with animator := (world.animator.registerReserved tick motion).2 }

theorem uses_startMotion (mine : own tick) (motion : Motion) :
    Uses own world (world.startMotion tick motion) := by
  unfold startMotion Animator.registerReserved
  split
  · exact .refl world
  · refine ⟨Nat.le_refl _, fun held foreign => ?_, fun other there => ?_, fun _ waits => Or.inl waits⟩
    · exact world.animator.under_append_of_notMem (fun member => (foreign tick member).1 mine) motion _
    · obtain ⟨entry, member, rfl⟩ := Animator.isRegistered_iff.mp there
      rcases List.mem_append.mp member with old | new
      · exact Or.inl (Animator.isRegistered_iff.mpr ⟨entry, old, rfl⟩)
      · rw [List.mem_singleton.mp new]
        exact Or.inr (Or.inl mine)

/-- A handle is given out, and perhaps a timer that waits for it is added. -/
theorem uses_reserve {after : World} (animator : after.animator = world.animator.reserve.2)
    (awaited : ∀ tick, after.Awaits tick → world.Awaits tick ∨ tick = world.animator.reserve.1) :
    Uses own world after where
  issued := animator ▸ Nat.le_succ _
  others held _ := animator ▸ rfl
  registered tick there := Or.inl (by rwa [animator] at there)
  awaited tick waits := by
    refine (awaited tick waits).imp_right ?_
    rintro rfl
    rw [animator]
    exact ⟨Nat.lt_succ_self _, Nat.le_refl _⟩

theorem uses_cancelTimer (timer : TimerId) : Uses own world (world.cancelTimer timer) :=
  .of_eq rfl fun _ ⟨other, member, starts⟩ => ⟨other, (TimerQueue.mem_cancel.mp member).1, starts⟩

end World

/-! ### Effects -/

namespace MoveState

variable (sprite : SpriteId) (velocity : Single) (pause : Nat) (world : World)

theorem uses_start {own : TickId → Prop} : World.Uses own world (start sprite velocity pause world).2 := by
  unfold start
  dsimp only
  split
  · exact world.uses_registerMotion _
  · refine world.uses_reserve rfl ?_
    rintro tick ⟨timer, member, motion, starts⟩
    rcases TimerQueue.mem_schedule.mp member with rfl | old
    · cases starts
      exact Or.inr rfl
    · exact Or.inl ⟨timer, old, motion, starts⟩

/-- A move that starts holds a new handle. -/
theorem issues_start {holding : Holding} {motion : Motion}
    (holds : (start sprite velocity pause world).1.holding? motion = some holding) :
    world.animator.Issues (start sprite velocity pause world).2.animator holding.tick := by
  unfold start at holds ⊢
  dsimp only at holds ⊢
  split at holds <;> rename_i pauses
  · rw [if_pos pauses]
    cases holds
    exact ⟨Nat.lt_succ_self _, Nat.le_refl _⟩
  · rw [if_neg pauses]
    cases holds
    exact ⟨Nat.lt_succ_self _, Nat.le_refl _⟩

/-- A move that has been started holds the handle that it held. -/
theorem tick_refresh {state : MoveState} {holding : Holding} {motion : Motion}
    (holds : (state.refresh world).holding? motion = some holding) :
    ∃ old, state.holding? motion = some old ∧ old.tick = holding.tick := by
  cases state with
  | idle => cases holds
  | pending timer tick =>
    refine ⟨_, rfl, ?_⟩
    simp only [refresh] at holds
    split at holds
    · cases holds
      rfl
    · split at holds <;> cases holds
      rfl
  | moving tick =>
    refine ⟨_, rfl, ?_⟩
    simp only [refresh] at holds
    split at holds <;> cases holds
    rfl

end MoveState

namespace Effect

variable (effect : Effect) (world : World)

theorem mem_ticks {effect : Effect} {tick : TickId} :
    tick ∈ effect.ticks ↔ ∃ holding, effect.holding? = some holding ∧ holding.tick = tick := by
  simp [ticks]

theorem uses_silence {own : TickId → Prop} (sound : String) :
    World.Uses own world (silence sound world) := by
  unfold silence
  split
  · exact .of_eq rfl fun _ waits => waits
  · exact .refl world

/-- **An effect that runs uses the handle that it holds**, and new ones. -/
theorem uses_execute : World.Uses (· ∈ effect.ticks) world (effect.execute world).2 := by
  cases effect with
  | audio sound => exact (uses_silence world sound).trans (.of_eq rfl fun _ waits => waits)
  | move sprite velocity pause state =>
    show World.Uses _ world (state.execute sprite velocity pause world).2
    unfold MoveState.execute
    split
    · exact MoveState.uses_start sprite velocity pause world
    · exact .refl world
  | bounce sprite offset => exact .of_eq rfl fun _ waits => waits
  | transition sprite image texture => exact .of_eq rfl fun _ waits => waits
  | fadeOut sprite speed state =>
    show World.Uses _ world (state.execute sprite speed world).2
    unfold FadeState.execute
    split
    · exact world.uses_registerMotion _
    · exact .refl world
  | spin sprite speed state =>
    cases state with
    | idle =>
      let centred := world.modifySprite sprite fun sprite => { sprite with anchor := ⟨0.5, 0.5⟩ }
      have moved {own : TickId → Prop} : World.Uses own world centred := .of_eq rfl fun _ waits => waits
      exact moved.trans (centred.uses_registerMotion _)
    | active tick =>
      have taken : World.Uses (· ∈ [tick]) world (world.deregisterMotion tick) :=
        world.uses_deregisterMotion (List.mem_singleton.mpr rfl)
      exact taken.trans (.of_eq rfl fun _ waits => waits)

/-- So does an effect that is called off. -/
theorem uses_cancel : World.Uses (· ∈ effect.ticks) world (effect.cancel world).2 := by
  have taken (tick : TickId) (world : World) :
      World.Uses (· ∈ [tick]) world (world.deregisterMotion tick) :=
    world.uses_deregisterMotion (List.mem_singleton.mpr rfl)
  cases effect with
  | audio sound => exact uses_silence world sound
  | move sprite velocity pause state =>
    cases state with
    | idle => exact .refl world
    | pending timer tick => exact (world.uses_cancelTimer timer).trans (taken tick _)
    | moving tick => exact taken tick world
  | bounce sprite offset => exact .refl world
  | transition sprite image texture => exact .refl world
  | fadeOut sprite speed state => cases state <;> first | exact taken _ world | exact .refl world
  | spin sprite speed state => cases state <;> first | exact taken _ world | exact .refl world

/-- An effect that has run holds the handle that it held, or a new one. -/
theorem ticks_execute {tick : TickId} (member : tick ∈ (effect.execute world).1.ticks) :
    tick ∈ effect.ticks ∨ world.animator.Issues (effect.execute world).2.animator tick := by
  obtain ⟨holding, holds, rfl⟩ := mem_ticks.mp member
  cases effect with
  | move sprite velocity pause state =>
    replace holds : (state.execute sprite velocity pause world).1.holding? _ = some holding := holds
    show _ ∨ world.animator.Issues (state.execute sprite velocity pause world).2.animator _
    unfold MoveState.execute at holds ⊢
    split at holds <;> rename_i refreshed
    · exact Or.inr (MoveState.issues_start sprite velocity pause world holds)
    · exact Or.inl (mem_ticks.mpr (MoveState.tick_refresh world holds))
  | fadeOut sprite speed state =>
    cases state with
    | idle =>
      cases holds
      exact Or.inr ⟨Nat.lt_succ_self _, Nat.le_refl _⟩
    | fading tick =>
      refine Or.inl (mem_ticks.mpr ⟨_, rfl, ?_⟩)
      simp only [execute, FadeState.execute, FadeState.refresh] at holds
      by_cases runs : world.animator.isRegistered tick = true
      · rw [if_pos runs] at holds
        cases holds
        rfl
      · rw [if_neg runs] at holds
        cases holds
    | done => cases holds
  | spin sprite speed state =>
    cases state with
    | idle =>
      cases holds
      exact Or.inr ⟨Nat.lt_succ_self _, Nat.le_refl _⟩
    | active tick => cases holds
  | _ => cases holds

/-- An effect that is called off holds nothing. -/
theorem ticks_cancel : (effect.cancel world).1.ticks = [] := by
  cases effect with
  | fadeOut sprite speed state => cases state <;> rfl
  | _ => rfl

end Effect

end Storybook
