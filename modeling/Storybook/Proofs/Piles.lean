/-
**Timers in a pile.**

The timers of a queue need not be kept in the order in which they are handed out. In a pile a new timer is
put at the end, and when one is taken out, the last one takes its place. Whenever time passes, the timer that
is due first is looked for again and again. However its timers come to lie, a pile does what a queue does.

* `TimerPile`: timers in a pile;
* `TimerPile.earliest`, `TimerPile.drain`: the timer that is handed out next, and all that is handed out;
* `TimerPile.Sorts`: a queue holds the timers of a pile, in order;
* `TimerPile.Sorts.insert`, `TimerPile.Sorts.cancel`, `TimerPile.Sorts.advance`: so it does after whatever is
  done with both.
-/

import Mathlib.Data.List.Perm.Basic
import Storybook.Proofs.Occurrences

namespace Storybook

variable {τ : Type} {now : Nat}

/-! ### Piles -/

/-- Timers as they come to lie. -/
structure TimerPile (τ : Type) where
  now : Nat
  /-- How many handles have been given out. -/
  issued : Nat
  timers : List (Timer τ)
deriving DecidableEq, Repr

namespace TimerPile

/-- A pile without timers. -/
def empty : TimerPile τ :=
  ⟨0, 0, []⟩

/-- Puts a timer at the end that is due after a delay. -/
def insert (pile : TimerPile τ) (delay : Nat) (period : Option Period) (task : τ) :
    TimerId × TimerPile τ :=
  let id : TimerId := ⟨pile.issued + 1⟩
  let timer : Timer τ := ⟨id, pile.now + delay, period, task⟩
  (id, { pile with issued := pile.issued + 1, timers := pile.timers ++ [timer] })

/-- Adds a timer that is due once. -/
def schedule (pile : TimerPile τ) (delay : Nat) (task : τ) : TimerId × TimerPile τ :=
  pile.insert delay none task

/-- Adds a timer that is due after every period. -/
def repeatEvery (pile : TimerPile τ) (span : Nat) (task : τ) : TimerId × TimerPile τ :=
  let period := Period.ofSpan span
  pile.insert period.length (some period) task

/-- Whether a timer is still in the pile. -/
def isPending (pile : TimerPile τ) (id : TimerId) : Bool :=
  pile.timers.any fun timer => timer.id = id

/-- Drops a timer from the pile, and leaves the others as they lie. Answers whether there are fewer then. -/
def cancel (pile : TimerPile τ) (id : TimerId) : Bool × TimerPile τ :=
  let timers := pile.timers.filter fun timer => timer.id ≠ id
  (pile.timers.length != timers.length, { pile with timers })

/-- How many timers there are. -/
def size (pile : TimerPile τ) : Nat :=
  pile.timers.length

/-- Where the timer lies that is handed out next: it is due, and none that is due comes before it. -/
def earliest (now : Nat) (timers : List (Timer τ)) : Option (Fin timers.length) :=
  timers.findFinIdx? fun timer =>
    timer.due ≤ now && (timers.filter fun other => other.due ≤ now).all fun other => !other.before timer

/-- Takes the timer out of a place; the last one takes the place. -/
def takeOut (timers : List (Timer τ)) (place : Nat) : List (Timer τ) :=
  match timers.getLast? with
  | some last => (timers.set place last).dropLast
  | none => []

variable {timers sorted : List (Timer τ)} {timer : Timer τ}

theorem mem_earliest {place : Fin timers.length} (found : earliest now timers = some place) :
    timers[place].due ≤ now ∧ ∀ other ∈ timers, other.due ≤ now → ¬ other.before timers[place] := by
  have fits := (List.findFinIdx?_eq_some_iff.mp found).1
  simpa [or_iff_not_imp_left] using fits

/-- The timers in one place and in the others. -/
theorem perm_place (timers : List (Timer τ)) (place : Fin timers.length) :
    timers.Perm (timers[place] :: timers.eraseIdx place) :=
  (List.getElem_cons_eraseIdx_perm place.isLt).symm

theorem perm_set (timers : List (Timer τ)) (place : Fin timers.length) (timer : Timer τ) :
    (timers.set place timer).Perm (timer :: timers.eraseIdx place) :=
  List.set_perm_cons_eraseIdx place.isLt timer

/-- What is taken out is gone, and the others are left. -/
theorem perm_takeOut (timers : List (Timer τ)) (place : Fin timers.length) :
    (takeOut timers place).Perm (timers.eraseIdx place) := by
  obtain ⟨place, inside⟩ := place
  rcases List.eq_nil_or_concat' timers with rfl | ⟨front, last, rfl⟩
  · exact absurd inside (Nat.not_lt_zero _)
  · have left : takeOut (front ++ [last]) place = ((front ++ [last]).set place last).dropLast := by
      simp [takeOut]
    rw [left]
    by_cases early : place < front.length
    · rw [List.set_append_left _ _ early, List.dropLast_concat, List.eraseIdx_append_of_lt_length early]
      exact (List.set_perm_cons_eraseIdx early last).trans (List.perm_append_singleton _ _).symm
    · have back : place = front.length := by
        rw [List.length_append, List.length_singleton] at inside
        omega
      subst back
      rw [List.eraseIdx_append_of_length_le (Nat.le_refl _)]
      simp

/-! ### Passing time -/

theorem ahead_perm {other : List (Timer τ)} (perm : timers.Perm other) :
    Timer.ahead now timers = Timer.ahead now other := by
  induction perm with
  | nil => rfl
  | cons timer _ ih => rw [Timer.ahead, Timer.ahead, ih]
  | swap first second rest =>
    simp only [Timer.ahead]
    omega
  | trans _ _ left right => exact left.trans right

/-- The occurrences that are due at an instant, as they are found, and the timers that wait for later
ones. -/
def drain (now : Nat) (timers : List (Timer τ)) : List (Timer τ) × List (Timer τ) :=
  match found : earliest now timers with
  | none => ([], timers)
  | some place =>
    match timers[place].period with
    | none =>
      let (fired, waiting) := drain now (takeOut timers place)
      (timers[place] :: fired, waiting)
    | some period =>
      let (fired, waiting) := drain now (timers.set place (timers[place].later period))
      (timers[place] :: fired, waiting)
termination_by Timer.ahead now timers
decreasing_by
  · have due := (mem_earliest found).1
    rw [ahead_perm (perm_takeOut timers place), ahead_perm (perm_place timers place), Timer.ahead]
    omega
  · have due := (mem_earliest found).1
    have shorter := period.atLeast
    rw [ahead_perm (perm_set timers place _), ahead_perm (perm_place timers place), Timer.ahead,
      Timer.ahead, Timer.due_later]
    omega

theorem drain_of_none (none : earliest now timers = none) : drain now timers = ([], timers) := by
  rw [drain]
  split
  · rfl
  · rename_i found
    cases none.symm.trans found

theorem drain_of_once {place : Fin timers.length} (found : earliest now timers = some place)
    (once : timers[place].period = none) :
    drain now timers = (timers[place] :: (drain now (takeOut timers place)).1,
      (drain now (takeOut timers place)).2) := by
  rw [drain]
  split
  · rename_i none
    cases found.symm.trans none
  · rename_i other again
    cases found.symm.trans again
    simp only [once]

theorem drain_of_again {place : Fin timers.length} {period : Period}
    (found : earliest now timers = some place) (again : timers[place].period = some period) :
    drain now timers = (timers[place] :: (drain now (timers.set place (timers[place].later period))).1,
      (drain now (timers.set place (timers[place].later period))).2) := by
  rw [drain]
  split
  · rename_i none
    cases found.symm.trans none
  · rename_i other twice
    cases found.symm.trans twice
    simp only [again]

/-- Moves the time on by a span, and hands out what has become due. -/
def advance (pile : TimerPile τ) (span : Nat) : List (Timer τ) × TimerPile τ :=
  let now := pile.now + span
  let (fired, waiting) := drain now pile.timers
  (fired, { pile with now, timers := waiting })

/-- The timer that is due first is found, wherever it lies. -/
theorem earliest_of_first {first : Timer τ} {rest : List (Timer τ)} (perm : timers.Perm (first :: rest))
    (ordered : Timer.Ordered (first :: rest)) (distinct : (TimerQueue.ids (first :: rest)).Nodup)
    (due : first.due ≤ now) : ∃ place, earliest now timers = some place ∧ timers[place] = first := by
  have member : first ∈ timers := perm.mem_iff.mpr List.mem_cons_self
  have leads : ∀ other ∈ timers, other = first ∨ first.before other := fun other inside =>
    (List.mem_cons.mp (perm.mem_iff.mp inside)).imp_right (TimerQueue.before_of_mem ordered distinct)
  cases found : earliest now timers with
  | none =>
    have unfit := List.findFinIdx?_eq_none_iff.mp found first member
    refine absurd ?_ unfit
    -- no timer comes before the first, so that it fits
    have least : ∀ other ∈ timers, ¬ other.before first := by
      intro other inside earlier
      rcases leads other inside with rfl | later
      · rw [Timer.before_iff] at earlier
        omega
      · rw [Timer.before_iff] at earlier later
        omega
    simp only [due, decide_true, Bool.true_and, List.all_eq_true, Bool.not_eq_true']
    exact fun other inside => Bool.eq_false_iff.mpr (least other (List.mem_of_mem_filter inside))
  | some place =>
    refine ⟨place, rfl, ?_⟩
    obtain ⟨_, least⟩ := mem_earliest found
    have inside : timers[place] ∈ timers := List.getElem_mem _
    exact (leads _ inside).resolve_right (least first member due)

/-- Nothing is found where nothing is due. -/
theorem earliest_of_early (early : ∀ timer ∈ timers, now < timer.due) : earliest now timers = none := by
  refine List.findFinIdx?_eq_none_iff.mpr fun timer member => ?_
  have late := early timer member
  simp [Nat.not_le.mpr late]

/-- **A pile hands out what a queue hands out**, in the same order, and the same timers wait on. -/
theorem drain_eq (perm : timers.Perm sorted) (ordered : Timer.Ordered sorted)
    (distinct : (TimerQueue.ids sorted).Nodup) :
    (drain now timers).1 = (TimerQueue.drain now sorted).1 ∧
      (drain now timers).2.Perm (TimerQueue.drain now sorted).2 := by
  fun_induction TimerQueue.drain now sorted generalizing timers with
  | case1 =>
    cases perm.eq_nil
    rw [drain_of_none (earliest_of_early fun timer member => absurd member List.not_mem_nil)]
    exact ⟨rfl, .refl _⟩
  | case2 first rest due once fired waiting split ih =>
    obtain ⟨place, found, here⟩ := earliest_of_first perm ordered distinct due
    have others := (perm_place timers place).symm.trans perm
    rw [here] at others
    have left := (perm_takeOut timers place).trans others.cons_inv
    have same := ih left (List.pairwise_cons.mp ordered).2 (List.nodup_cons.mp distinct).2
    rw [split] at same
    rw [drain_of_once found (here ▸ once), here, same.1]
    exact ⟨rfl, same.2⟩
  | case3 first rest due period again fired waiting split ih =>
    obtain ⟨place, found, here⟩ := earliest_of_first perm ordered distinct due
    have others := (perm_place timers place).symm.trans perm
    rw [here] at others
    have left : (timers.set place (first.later period)).Perm ((first.later period).enqueue rest) :=
      (perm_set timers place _).trans ((others.cons_inv.cons _).trans (Timer.perm_enqueue _ _).symm)
    have same := ih left (Timer.Ordered.enqueue (List.pairwise_cons.mp ordered).2 _)
      ((TimerQueue.perm_ids_enqueue _ _).nodup_iff.mpr distinct)
    rw [split] at same
    rw [drain_of_again found (here ▸ again), here, same.1]
    exact ⟨rfl, same.2⟩
  | case4 first rest late =>
    have early := TimerQueue.early_of_ordered ordered late
    rw [drain_of_none (earliest_of_early fun timer member => early timer (perm.mem_iff.mp member))]
    exact ⟨rfl, perm⟩

/-! ### Piles and queues -/

/-- **A queue sorts a pile**: it holds the same timers, in the order in which they are handed out. -/
structure Sorts (pile : TimerPile τ) (queue : TimerQueue τ) : Prop where
  now : pile.now = queue.now
  issued : pile.issued = queue.issued
  timers : pile.timers.Perm queue.timers
  ordered : Timer.Ordered queue.timers
  distinct : (TimerQueue.ids queue.timers).Nodup
  known : ∀ timer ∈ queue.timers, timer.id.number ≤ queue.issued

theorem sorts_empty : Sorts (empty : TimerPile τ) .empty :=
  ⟨rfl, rfl, .refl _, TimerQueue.ordered_empty, .nil, nofun⟩

variable {pile : TimerPile τ} {queue : TimerQueue τ}

namespace Sorts

theorem insert (sorts : pile.Sorts queue) (delay : Nat) (period : Option Period) (task : τ) :
    (pile.insert delay period task).1 = (queue.insert delay period task).1 ∧
      (pile.insert delay period task).2.Sorts (queue.insert delay period task).2 := by
  have same : (pile.insert delay period task).1 = (queue.insert delay period task).1 :=
    congrArg (fun issued => TimerId.mk (issued + 1)) sorts.issued
  refine ⟨same, sorts.now, congrArg (· + 1) sorts.issued, ?_,
    TimerQueue.ordered_insert sorts.ordered _ _ _, ?_, fun timer member => ?_⟩
  · show (pile.timers ++ [_]).Perm _
    refine (List.perm_append_singleton _ _).trans ((sorts.timers.cons _).trans ?_)
    rw [sorts.now, sorts.issued]
    exact (Timer.perm_enqueue _ _).symm
  · refine (TimerQueue.perm_ids_enqueue _ _).nodup_iff.mpr (List.nodup_cons.mpr ⟨?_, sorts.distinct⟩)
    intro taken
    obtain ⟨old, member, same⟩ := List.mem_map.mp taken
    have below := sorts.known old member
    rw [same] at below
    exact Nat.not_succ_le_self _ below
  · rcases TimerQueue.mem_insert.mp member with rfl | old
    · exact Nat.le_refl _
    · exact Nat.le_succ_of_le (sorts.known timer old)

theorem isPending (sorts : pile.Sorts queue) (id : TimerId) : pile.isPending id = queue.isPending id :=
  sorts.timers.any_eq

theorem size (sorts : pile.Sorts queue) : pile.size = queue.size :=
  sorts.timers.length_eq

theorem cancel (sorts : pile.Sorts queue) (id : TimerId) :
    (pile.cancel id).1 = (queue.cancel id).1 ∧ (pile.cancel id).2.Sorts (queue.cancel id).2 := by
  have left : (pile.timers.filter fun timer => timer.id ≠ id).Perm
      (queue.timers.filter fun timer => timer.id ≠ id) := sorts.timers.filter _
  constructor
  · exact congrArg₂ (fun before after : Nat => before != after) sorts.timers.length_eq left.length_eq
  · exact ⟨sorts.now, sorts.issued, left, TimerQueue.ordered_cancel sorts.ordered id,
      sorts.distinct.sublist (List.filter_sublist.map Timer.id),
      fun timer member => sorts.known timer (List.mem_of_mem_filter member)⟩

/-- **When time passes, a pile hands out what a queue hands out**, and the queue sorts what is left. -/
theorem advance (sorts : pile.Sorts queue) (span : Nat) :
    (pile.advance span).1 = (queue.advance span).1 ∧
      (pile.advance span).2.Sorts (queue.advance span).2 := by
  have both : (drain (queue.now + span) pile.timers).1 = _ ∧ _ :=
    drain_eq sorts.timers sorts.ordered sorts.distinct
  have same : pile.now + span = queue.now + span := congrArg (· + span) sorts.now
  unfold TimerPile.advance
  rw [same]
  refine ⟨both.1, rfl, sorts.issued, both.2, TimerQueue.ordered_advance sorts.ordered span,
    TimerQueue.nodup_ids_drain sorts.distinct, fun timer member => ?_⟩
  obtain ⟨old, inside, renews⟩ := TimerQueue.mem_advance member
  exact renews.id ▸ sorts.known old inside

end Sorts

end TimerPile

end Storybook
