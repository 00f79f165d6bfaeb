/-
**A repeating timer among others.**

When time passes, the timers of one task are handed out, and wait on, as if there were no others. A timer
that was set to repeat is handed out once for every period that has passed since, in however many steps the
time has come to pass.

* `TimerQueue.drain_filter`: some of the timers, as if there were no others;
* `Timer.turn`: a repeating timer before one of its turns, counted from the instant at which it was set;
* `TimerQueue.drain_turn`: all turns until an instant.
-/

import Storybook.Proofs.Queue

namespace Storybook

variable {τ : Type} {keep : Timer τ → Bool} {now : Nat} {timers : List (Timer τ)}

/-! ### Some timers among others -/

namespace Timer

/-- Where no timer is handed out before it, a timer is put in front. -/
theorem enqueue_of_first {timer : Timer τ} (first : ∀ other ∈ timers, ¬ other.before timer) :
    timer.enqueue timers = timer :: timers := by
  cases timers with
  | nil => rfl
  | cons other rest =>
    unfold enqueue
    rw [if_neg (first other List.mem_cons_self)]

/-- A timer that is put in its place is in its place among some of the others, too. -/
theorem filter_enqueue_of_keep (ordered : Ordered timers) {timer : Timer τ} (kept : keep timer = true) :
    (timer.enqueue timers).filter keep = timer.enqueue (timers.filter keep) := by
  induction timers with
  | nil => simp [enqueue, kept]
  | cons other rest ih =>
    obtain ⟨behind, sorted⟩ := List.pairwise_cons.mp ordered
    by_cases earlier : other.before timer
    · rw [enqueue, if_pos earlier, List.filter_cons, List.filter_cons, ih sorted]
      split
      · rw [enqueue, if_pos earlier]
      · rfl
    · -- The order puts all others behind, so that the timer is in front of those that are kept.
      have front : ∀ next ∈ other :: rest, ¬ next.before timer := by
        refine List.forall_mem_cons.mpr ⟨earlier, fun next member => ?_⟩
        have later := behind next member
        rw [before_iff] at earlier later ⊢
        omega
      rw [enqueue, if_neg earlier, List.filter_cons_of_pos kept]
      exact (enqueue_of_first fun next member => front next (List.mem_filter.mp member).1).symm

end Timer

namespace TimerQueue

open Timer (Ordered)

/-- Where no timer is due, all wait. -/
theorem drain_of_early (early : ∀ timer ∈ timers, now < timer.due) : drain now timers = ([], timers) := by
  cases timers with
  | nil => simp [drain]
  | cons first rest =>
    have late : ¬ first.due ≤ now := Nat.not_le.mpr (early first List.mem_cons_self)
    rw [drain, if_neg late]

/-- **Some of the timers are handed out, and wait on, as if there were no others**, if they are told by
what the turns of a timer have in common. -/
theorem drain_filter (same : ∀ timer period, keep (timer.later period) = keep timer)
    (ordered : Ordered timers) :
    drain now (timers.filter keep) =
      ((drain now timers).1.filter keep, (drain now timers).2.filter keep) := by
  fun_induction drain now timers with
  | case1 => simp [drain]
  | case2 first rest due once fired waiting split ih =>
    have others := ih (List.pairwise_cons.mp ordered).2
    rw [split] at others
    by_cases kept : keep first
    · rw [List.filter_cons_of_pos kept, List.filter_cons_of_pos kept, drain, if_pos due]
      simp only [once, others]
    · rw [List.filter_cons_of_neg kept, List.filter_cons_of_neg kept]
      exact others
  | case3 first rest due period again fired waiting split ih =>
    have sorted := (List.pairwise_cons.mp ordered).2
    have others := ih (Ordered.enqueue sorted _)
    rw [split] at others
    by_cases kept : keep first
    · rw [Timer.filter_enqueue_of_keep sorted ((same first period).trans kept)] at others
      rw [List.filter_cons_of_pos kept, List.filter_cons_of_pos kept, drain, if_pos due]
      simp only [again, others]
    · have dropped : keep (first.later period) = false := (same first period).trans (by simpa using kept)
      rw [Timer.filter_enqueue dropped] at others
      rw [List.filter_cons_of_neg kept, List.filter_cons_of_neg kept]
      exact others
  | case4 first rest late =>
    have early := early_of_ordered ordered late
    exact drain_of_early fun timer member => early timer (List.mem_filter.mp member).1

end TimerQueue

/-! ### Repeating timers -/

namespace Timer

/-- A timer that was set at an instant to repeat, when it has had some of its turns. -/
def turn (id : TimerId) (made : Nat) (period : Period) (task : τ) (had : Nat) : Timer τ :=
  ⟨id, made + (had + 1) * period.length, some period, task⟩

variable (id : TimerId) (made : Nat) (period : Period) (task : τ)

theorem later_turn (had : Nat) :
    (turn id made period task had).later period = turn id made period task (had + 1) := by
  have next : made + (had + 1) * period.length + period.length = made + (had + 1 + 1) * period.length := by
    rw [Nat.succ_mul (had + 1), Nat.add_assoc]
  exact congrArg (fun due => (⟨id, due, some period, task⟩ : Timer τ)) next

/-- A timer is due once more if another period has passed. -/
theorem due_turn (had : Nat) :
    (turn id made period task had).due ≤ now ↔ had < (now - made) / period.length ∧ made ≤ now := by
  have positive : 0 < period.length := Nat.lt_of_lt_of_le (by decide) period.atLeast
  have whole : had < (now - made) / period.length ↔ (had + 1) * period.length ≤ now - made :=
    Nat.le_div_iff_mul_le positive
  rw [whole]
  show made + (had + 1) * period.length ≤ now ↔ _
  omega

end Timer

/-- **A repeating timer is handed out once for every period** that has passed since it was set, but for the
turns that it has had. -/
theorem TimerQueue.drain_turn (id : TimerId) (made : Nat) (period : Period) (task : τ)
    (since : made ≤ now) {had : Nat} (past : had ≤ (now - made) / period.length) :
    (drain now [Timer.turn id made period task had]).1.length = (now - made) / period.length - had ∧
      (drain now [Timer.turn id made period task had]).2 =
        [Timer.turn id made period task ((now - made) / period.length)] := by
  obtain ⟨more, whole⟩ := Nat.exists_eq_add_of_le past
  induction more generalizing had with
  | zero =>
    have early : ¬ (Timer.turn id made period task had).due ≤ now := by
      rw [Timer.due_turn]
      omega
    rw [drain, if_neg early, whole]
    exact ⟨(Nat.sub_self had).symm, rfl⟩
  | succ more ih =>
    have due : (Timer.turn id made period task had).due ≤ now := by
      rw [Timer.due_turn]
      omega
    have next : had + 1 ≤ (now - made) / period.length := by omega
    have later := ih next (by omega)
    rw [← Timer.later_turn] at later
    rw [drain, if_pos due]
    refine ⟨?_, later.2⟩
    show (drain now [_]).1.length + 1 = _
    rw [later.1]
    omega

end Storybook
