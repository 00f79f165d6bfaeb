/-
**The timers of a queue.**

What the operations of a timer queue leave in it, timer by timer.

* `TimerQueue.mem_schedule`, `TimerQueue.mem_repeatEvery`, `TimerQueue.mem_cancel`: the timers after
  one is added or taken out;
* `Timer.Renews`: a timer is another one, perhaps at a later occurrence;
* `TimerQueue.Grows`: timers have gone, and others have come under new handles;
* `TimerQueue.mem_advance`, `TimerQueue.mem_fired`: when time passes, no timer appears from nowhere.
-/

import Storybook.Clock.TimerQueue

namespace Storybook

variable {τ : Type}

namespace Timer

/-- A timer is another one, perhaps at another occurrence. -/
structure Renews (timer old : Timer τ) : Prop where
  id : timer.id = old.id
  period : timer.period = old.period
  task : timer.task = old.task

theorem Renews.refl (timer : Timer τ) : timer.Renews timer :=
  ⟨rfl, rfl, rfl⟩

theorem later_renews (timer : Timer τ) (period : Period) : (timer.later period).Renews timer :=
  ⟨rfl, rfl, rfl⟩

theorem Renews.trans {first second third : Timer τ} (left : first.Renews second)
    (right : second.Renews third) : first.Renews third :=
  ⟨left.id.trans right.id, left.period.trans right.period, left.task.trans right.task⟩

@[simp]
theorem mem_enqueue {other timer : Timer τ} {timers : List (Timer τ)} :
    other ∈ timer.enqueue timers ↔ other = timer ∨ other ∈ timers := by
  induction timers with
  | nil => simp [enqueue]
  | cons first rest ih =>
    unfold enqueue
    split
    · rw [List.mem_cons, ih, List.mem_cons]
      exact or_left_comm
    · exact List.mem_cons

end Timer

namespace TimerQueue

/-! ### Adding and taking out -/

theorem mem_insert {queue : TimerQueue τ} {delay : Nat} {period : Option Period} {task : τ}
    {timer : Timer τ} :
    timer ∈ (queue.insert delay period task).2.timers ↔
      timer = ⟨⟨queue.issued + 1⟩, queue.now + delay, period, task⟩ ∨ timer ∈ queue.timers :=
  Timer.mem_enqueue

theorem mem_schedule {queue : TimerQueue τ} {delay : Nat} {task : τ} {timer : Timer τ} :
    timer ∈ (queue.schedule delay task).2.timers ↔
      timer = ⟨⟨queue.issued + 1⟩, queue.now + delay, none, task⟩ ∨ timer ∈ queue.timers :=
  mem_insert

theorem mem_repeatEvery {queue : TimerQueue τ} {span : Nat} {task : τ} {timer : Timer τ} :
    timer ∈ (queue.repeatEvery span task).2.timers ↔
      timer = ⟨⟨queue.issued + 1⟩, queue.now + (Period.ofSpan span).length,
        some (Period.ofSpan span), task⟩ ∨ timer ∈ queue.timers :=
  mem_insert

theorem mem_cancel {queue : TimerQueue τ} {id : TimerId} {timer : Timer τ} :
    timer ∈ (queue.cancel id).2.timers ↔ timer ∈ queue.timers ∧ timer.id ≠ id := by
  simp [cancel]

theorem isPending_iff {queue : TimerQueue τ} {id : TimerId} :
    queue.isPending id = true ↔ ∃ timer ∈ queue.timers, timer.id = id := by
  simp [isPending]

/-- Between two states of a queue, timers have gone from it, and others have come under new handles. -/
structure Grows (before after : TimerQueue τ) : Prop where
  issued : before.issued ≤ after.issued
  fresh : ∀ timer ∈ after.timers,
    timer ∈ before.timers ∨ before.issued < timer.id.number ∧ timer.id.number ≤ after.issued

theorem Grows.refl (queue : TimerQueue τ) : queue.Grows queue :=
  ⟨Nat.le_refl _, fun _ member => Or.inl member⟩

theorem Grows.trans {first second third : TimerQueue τ} (left : first.Grows second)
    (right : second.Grows third) : first.Grows third where
  issued := Nat.le_trans left.issued right.issued
  fresh timer member := by
    have below := left.issued
    have above := right.issued
    rcases right.fresh timer member with old | new
    · rcases left.fresh timer old with older | new
      · exact Or.inl older
      · omega
    · omega

theorem grows_insert (queue : TimerQueue τ) (delay : Nat) (period : Option Period) (task : τ) :
    queue.Grows (queue.insert delay period task).2 where
  issued := Nat.le_succ _
  fresh timer member := by
    rcases mem_insert.mp member with rfl | old
    · exact Or.inr ⟨Nat.lt_succ_self _, Nat.le_refl _⟩
    · exact Or.inl old

theorem grows_cancel (queue : TimerQueue τ) (id : TimerId) : queue.Grows (queue.cancel id).2 :=
  ⟨Nat.le_refl _, fun _ member => Or.inl (mem_cancel.mp member).1⟩

/-! ### Passing time -/

/-- What is due comes from a timer of the queue. -/
theorem mem_drain_fired {now : Nat} {timers : List (Timer τ)} {timer : Timer τ}
    (fired : timer ∈ (drain now timers).1) : ∃ old ∈ timers, timer.Renews old := by
  fun_induction drain now timers with
  | case1 => cases fired
  | case2 first rest due once waitingFired waiting split ih =>
    rw [split] at ih
    rcases List.mem_cons.mp fired with rfl | inside
    · exact ⟨timer, List.mem_cons_self, .refl _⟩
    · obtain ⟨old, member, renews⟩ := ih inside
      exact ⟨old, List.mem_cons_of_mem _ member, renews⟩
  | case3 first rest due period again laterFired waiting split ih =>
    rw [split] at ih
    rcases List.mem_cons.mp fired with rfl | inside
    · exact ⟨timer, List.mem_cons_self, .refl _⟩
    · obtain ⟨old, member, renews⟩ := ih inside
      rcases Timer.mem_enqueue.mp member with rfl | member
      · exact ⟨first, List.mem_cons_self, renews.trans (first.later_renews period)⟩
      · exact ⟨old, List.mem_cons_of_mem _ member, renews⟩
  | case4 => cases fired

/-- What waits on is a timer of the queue. -/
theorem mem_drain_waiting {now : Nat} {timers : List (Timer τ)} {timer : Timer τ}
    (waits : timer ∈ (drain now timers).2) : ∃ old ∈ timers, timer.Renews old := by
  fun_induction drain now timers with
  | case1 => cases waits
  | case2 first rest due once fired waiting split ih =>
    rw [split] at ih
    obtain ⟨old, member, renews⟩ := ih waits
    exact ⟨old, List.mem_cons_of_mem _ member, renews⟩
  | case3 first rest due period again fired waiting split ih =>
    rw [split] at ih
    obtain ⟨old, member, renews⟩ := ih waits
    rcases Timer.mem_enqueue.mp member with rfl | member
    · exact ⟨first, List.mem_cons_self, renews.trans (first.later_renews period)⟩
    · exact ⟨old, List.mem_cons_of_mem _ member, renews⟩
  | case4 first rest early => exact ⟨timer, waits, .refl _⟩

theorem mem_fired {queue : TimerQueue τ} {span : Nat} {timer : Timer τ}
    (fired : timer ∈ (queue.advance span).1) : ∃ old ∈ queue.timers, timer.Renews old :=
  mem_drain_fired fired

theorem mem_advance {queue : TimerQueue τ} {span : Nat} {timer : Timer τ}
    (waits : timer ∈ (queue.advance span).2.timers) : ∃ old ∈ queue.timers, timer.Renews old :=
  mem_drain_waiting waits

end TimerQueue

end Storybook
