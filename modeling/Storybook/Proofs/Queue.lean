/-
**Timers in order.**

A queue keeps its timers in the order in which they are handed out. So when time passes, the timers
that are due stand in front, and none of them is passed over.

* `Timer.Ordered`: the order of the timers of a queue, which every operation keeps;
* `TimerQueue.filter_fired`, `TimerQueue.filter_waiting`: of the timers that are due once, exactly
  those are handed out whose time has come, and the others stay.
-/

import Mathlib.Data.List.Basic
import Storybook.Proofs.Timers

namespace Storybook

variable {τ : Type}

namespace Timer

/-! ### The order -/

theorem before_iff {first second : Timer τ} :
    first.before second ↔ first.due < second.due ∨
      first.due = second.due ∧ first.id.number < second.id.number := by
  simp [before]

/-- No timer stands behind one that is handed out after it. -/
def Ordered (timers : List (Timer τ)) : Prop :=
  timers.Pairwise fun first second => ¬ second.before first

/-- A timer that is put in its place keeps the order. -/
theorem Ordered.enqueue {timers : List (Timer τ)} (ordered : Ordered timers) (timer : Timer τ) :
    Ordered (timer.enqueue timers) := by
  induction timers with
  | nil => exact List.pairwise_singleton _ _
  | cons other rest ih =>
    obtain ⟨first, sorted⟩ := List.pairwise_cons.mp ordered
    unfold Timer.enqueue
    by_cases earlier : other.before timer
    · rw [if_pos earlier]
      refine List.pairwise_cons.mpr ⟨fun next member => ?_, ih sorted⟩
      rcases mem_enqueue.mp member with rfl | inside
      · rw [before_iff] at earlier ⊢
        omega
      · exact first next inside
    · rw [if_neg earlier]
      refine List.pairwise_cons.mpr ⟨List.forall_mem_cons.mpr ⟨earlier, fun next inside => ?_⟩, ordered⟩
      have behind := first next inside
      rw [before_iff] at earlier behind ⊢
      omega

/-- A timer that is put in its place is one more timer. -/
theorem perm_enqueue (timer : Timer τ) (timers : List (Timer τ)) :
    (timer.enqueue timers).Perm (timer :: timers) := by
  induction timers with
  | nil => exact .refl _
  | cons other rest ih =>
    unfold enqueue
    split
    · exact (ih.cons other).trans (.swap timer other rest)
    · exact .refl _

/-- A timer that is put in its place leaves the others where they are. -/
theorem filter_enqueue {keep : Timer τ → Bool} {timer : Timer τ} (drop : keep timer = false)
    (timers : List (Timer τ)) : (timer.enqueue timers).filter keep = timers.filter keep := by
  induction timers with
  | nil => exact List.filter_cons_of_neg (by simp [drop])
  | cons other rest ih =>
    unfold enqueue
    split
    · rw [List.filter_cons, List.filter_cons, ih]
    · exact List.filter_cons_of_neg (by simp [drop])

/-- Whether a timer is due only once. -/
def isOnce (timer : Timer τ) : Bool :=
  timer.period.isNone

end Timer

namespace TimerQueue

open Timer (Ordered isOnce)

theorem ordered_empty : Ordered (empty : TimerQueue τ).timers :=
  .nil

theorem ordered_insert {queue : TimerQueue τ} (ordered : Ordered queue.timers) (delay : Nat)
    (period : Option Period) (task : τ) : Ordered (queue.insert delay period task).2.timers :=
  ordered.enqueue _

theorem ordered_cancel {queue : TimerQueue τ} (ordered : Ordered queue.timers) (id : TimerId) :
    Ordered (queue.cancel id).2.timers :=
  List.Pairwise.filter _ ordered

/-! ### Passing time -/

variable {now : Nat} {timers : List (Timer τ)}

theorem ordered_drain (ordered : Ordered timers) : Ordered (drain now timers).2 := by
  fun_induction drain now timers with
  | case1 => exact .nil
  | case2 first rest due once fired waiting split ih =>
    rw [split] at ih
    exact ih (List.pairwise_cons.mp ordered).2
  | case3 first rest due period again fired waiting split ih =>
    rw [split] at ih
    exact ih (Ordered.enqueue (List.pairwise_cons.mp ordered).2 _)
  | case4 first rest early => exact ordered

theorem ordered_advance {queue : TimerQueue τ} (ordered : Ordered queue.timers) (span : Nat) :
    Ordered (queue.advance span).2.timers :=
  ordered_drain ordered

/-- Where the first timer is not due, none is. -/
theorem early_of_ordered {first : Timer τ} {rest : List (Timer τ)} (ordered : Ordered (first :: rest))
    (early : ¬ first.due ≤ now) : ∀ timer ∈ first :: rest, now < timer.due := by
  refine List.forall_mem_cons.mpr ⟨Nat.not_le.mp early, fun timer member => ?_⟩
  have behind := (List.pairwise_cons.mp ordered).1 timer member
  rw [Timer.before_iff] at behind
  omega

/-- **Of the timers that are due once, those are handed out whose time has come**, in their order. -/
theorem filter_fired (ordered : Ordered timers) :
    (drain now timers).1.filter isOnce =
      timers.filter fun timer => timer.isOnce && timer.due ≤ now := by
  fun_induction drain now timers with
  | case1 => rfl
  | case2 first rest due once fired waiting split ih =>
    rw [split] at ih
    have single : first.isOnce = true := by simp [isOnce, once]
    rw [List.filter_cons_of_pos single, List.filter_cons_of_pos (by simp [single, due])]
    rw [ih (List.pairwise_cons.mp ordered).2]
  | case3 first rest due period again fired waiting split ih =>
    rw [split] at ih
    have many : first.isOnce = false := by simp [isOnce, again]
    have next : ((first.later period).isOnce && decide ((first.later period).due ≤ now)) = false :=
      Bool.and_eq_false_imp.mpr fun single => absurd (many.symm.trans single) Bool.false_ne_true
    rw [List.filter_cons_of_neg (by simp [many]), List.filter_cons_of_neg (by simp [many])]
    rw [ih (Ordered.enqueue (List.pairwise_cons.mp ordered).2 _), Timer.filter_enqueue next]
  | case4 first rest early =>
    refine (List.filter_eq_nil_iff.mpr fun timer member => ?_).symm
    have late := early_of_ordered ordered early timer member
    simp [Nat.not_le.mpr late]

/-- **Of the timers that are due once, those stay whose time has not come**, in their order. -/
theorem filter_waiting (ordered : Ordered timers) :
    (drain now timers).2.filter isOnce =
      timers.filter fun timer => timer.isOnce && !decide (timer.due ≤ now) := by
  fun_induction drain now timers with
  | case1 => rfl
  | case2 first rest due once fired waiting split ih =>
    rw [split] at ih
    rw [List.filter_cons_of_neg (by simp [due])]
    exact ih (List.pairwise_cons.mp ordered).2
  | case3 first rest due period again fired waiting split ih =>
    rw [split] at ih
    have many : first.isOnce = false := by simp [isOnce, again]
    have next : ((first.later period).isOnce && !decide ((first.later period).due ≤ now)) = false :=
      Bool.and_eq_false_imp.mpr fun single => absurd (many.symm.trans single) Bool.false_ne_true
    rw [List.filter_cons_of_neg (by simp [many])]
    rw [ih (Ordered.enqueue (List.pairwise_cons.mp ordered).2 _), Timer.filter_enqueue next]
  | case4 first rest early =>
    refine List.filter_congr fun timer member => ?_
    have late := early_of_ordered ordered early timer member
    simp [Nat.not_le.mpr late]

end TimerQueue

end Storybook
