/-
**Spans that pass in frames.**

Time passes in frames of any lengths. A thing that happens at the end of a frame and takes a span is
over at the end of the first later frame by which the span has passed.

* `Frames.ending`, `Frames.first`: the end of a frame, and the first frame by whose end a span has
  passed;
* `Frames.passed`, `Frames.going`: of some things, those that are over, with the frame, and the others;
* `Frames.ends`: the things that one more frame ends;
* `Frames.passed_grow`: what one more frame makes of them, when others begin in it;
* `Frames.perm_ends`, `Frames.perm_going`: the same for a list of the instants at which they are over.
-/

import Mathlib.Algebra.BigOperators.Group.List.Basic
import Mathlib.Algebra.GroupWithZero.Nat
import Mathlib.Data.List.Find
import Mathlib.Data.List.Perm.Basic

namespace Storybook.Frames

variable {α β : Type} {spans : List Nat} {frame : Nat}

/-- The time from the beginning to the end of a frame, when the frames take some spans. -/
def ending (spans : List Nat) (frame : Nat) : Nat :=
  (spans.take frame).sum

/-- The first frame after a frame by whose end a span has passed since the end of that frame. -/
def first (spans : List Nat) (frame span : Nat) : Option Nat :=
  (List.range (spans.length + 1)).find? fun later =>
    frame < later && ending spans frame + span ≤ ending spans later

/-- The things that are over, each with the frame in which it was over. -/
def passed (thing : α → β) (frame span : α → Nat) (spans : List Nat) (list : List α) :
    List (β × Nat) :=
  list.filterMap fun one => (first spans (frame one) (span one)).map fun later => (thing one, later)

/-- The things that are not over. -/
def going (frame span : α → Nat) (spans : List Nat) (list : List α) : List α :=
  list.filter fun one => (first spans (frame one) (span one)).isNone

/-- The things that are over after one more frame. -/
def ends (frame span : α → Nat) (spans : List Nat) (more : Nat) (list : List α) : List α :=
  (going frame span spans list).filter fun one =>
    ending spans (frame one) + span one ≤ spans.sum + more

/-! ### One more frame -/

/-- The end of a frame does not depend on later ones. -/
theorem ending_append (inside : frame ≤ spans.length) (span : Nat) :
    ending (spans ++ [span]) frame = ending spans frame := by
  rw [ending, ending, List.take_append_of_le_length inside]

theorem ending_last (spans : List Nat) (more : Nat) :
    ending (spans ++ [more]) (spans.length + 1) = spans.sum + more := by
  rw [ending, List.take_of_length_le (by simp), List.sum_append, List.sum_singleton]

/-- **One more frame**: it is the first one if there was none before and the span has passed now. -/
theorem first_append (inside : frame ≤ spans.length) (span more : Nat) :
    first (spans ++ [more]) frame span = (first spans frame span).or
      (if ending spans frame + span ≤ spans.sum + more then some (spans.length + 1) else none) := by
  have before : (List.range (spans.length + 1)).find? (fun later => frame < later &&
      ending (spans ++ [more]) frame + span ≤ ending (spans ++ [more]) later) =
      first spans frame span := by
    refine List.find?_congr fun later member => ?_
    have short : later ≤ spans.length := Nat.le_of_lt_succ (List.mem_range.mp member)
    rw [ending_append inside, ending_append short]
  unfold first at before ⊢
  rw [List.length_append, List.length_singleton, List.range_succ, List.find?_append, before]
  rw [List.find?_singleton, ending_last, ending_append inside]
  simp [Nat.lt_succ_of_le inside]

/-- Nothing is over in the frame in which it begins. -/
theorem first_eq_none (late : spans.length ≤ frame) (span : Nat) : first spans frame span = none := by
  refine List.find?_eq_none.mpr fun later member => ?_
  have short := List.mem_range.mp member
  simp only [Bool.and_eq_true, decide_eq_true_eq]
  omega

variable {thing : α → β} {frames span : α → Nat} {list : List α}

/-- **What one more frame ends**: the things whose span has passed by then. -/
theorem passed_append (inside : ∀ one ∈ list, frames one ≤ spans.length) (more : Nat) :
    (passed thing frames span (spans ++ [more]) list).Perm
      (passed thing frames span spans list ++
        (ends frames span spans more list).map fun one => (thing one, spans.length + 1)) := by
  induction list with
  | nil => exact .refl _
  | cons one rest ih =>
    obtain ⟨here, further⟩ := List.forall_mem_cons.mp inside
    have tail := ih further
    unfold passed ends going at tail ⊢
    rw [List.filterMap_cons, List.filterMap_cons, first_append here]
    cases found : first spans (frames one) (span one) with
    | some later =>
      rw [List.filter_cons_of_neg (by simp [found])]
      exact tail.cons _
    | none =>
      rw [List.filter_cons_of_pos (by simp [found])]
      by_cases due : ending spans (frames one) + span one ≤ spans.sum + more
      · rw [List.filter_cons_of_pos (by simp [due]), List.map_cons, if_pos due]
        exact (tail.cons _).trans List.perm_middle.symm
      · rw [List.filter_cons_of_neg (by simp [due]), if_neg due]
        exact tail

/-- What one more frame does not end: the things whose span has not passed by then. -/
theorem going_append (inside : ∀ one ∈ list, frames one ≤ spans.length) (more : Nat) :
    going frames span (spans ++ [more]) list =
      (going frames span spans list).filter fun one =>
        !decide (ending spans (frames one) + span one ≤ spans.sum + more) := by
  unfold going
  rw [List.filter_filter]
  refine List.filter_congr fun one member => ?_
  rw [first_append (inside one member)]
  by_cases due : ending spans (frames one) + span one ≤ spans.sum + more <;>
    cases first spans (frames one) (span one) <;> simp [due]

/-- What has just begun is not over. -/
theorem passed_eq_nil (fresh : ∀ one ∈ list, spans.length ≤ frames one) :
    passed thing frames span spans list = [] := by
  refine List.filterMap_eq_nil_iff.mpr fun one member => ?_
  rw [first_eq_none (fresh one member), Option.map_none]

theorem going_eq_self (fresh : ∀ one ∈ list, spans.length ≤ frames one) :
    going frames span spans list = list := by
  refine List.filter_eq_self.mpr fun one member => ?_
  rw [first_eq_none (fresh one member), Option.isNone_none]

/-- What one more frame ends, when some things begin in it. -/
theorem passed_grow (inside : ∀ one ∈ list, frames one ≤ spans.length) {more : Nat} {new : List α}
    (fresh : ∀ one ∈ new, frames one = spans.length + 1) :
    (passed thing frames span (spans ++ [more]) (list ++ new)).Perm
      (passed thing frames span spans list ++
        (ends frames span spans more list).map fun one => (thing one, spans.length + 1)) := by
  have none : passed thing frames span (spans ++ [more]) new = [] :=
    passed_eq_nil fun one member => Nat.le_of_eq (List.length_append.trans (fresh one member).symm)
  have split : passed thing frames span (spans ++ [more]) (list ++ new) =
      passed thing frames span (spans ++ [more]) list :=
    List.filterMap_append.trans ((congrArg _ none).trans (List.append_nil _))
  exact split ▸ passed_append inside more

/-! ### Instants -/

variable {instants : List (β × Nat)} {start : Nat}

/-- The instants that have come by the end of one more frame are those of the things that it ends. -/
theorem perm_ends (same : instants.Perm ((going frames span spans list).map fun one =>
    (thing one, start + (ending spans (frames one) + span one)))) (more : Nat) :
    ((instants.filter fun instant => instant.2 ≤ start + spans.sum + more).map Prod.fst).Perm
      ((ends frames span spans more list).map thing) := by
  refine ((same.filter _).map Prod.fst).trans (.of_eq ?_)
  rw [List.filter_map, List.map_map, ends]
  refine congrArg (List.map thing) (List.filter_congr fun one _ => decide_eq_decide.mpr ?_)
  dsimp only
  omega

/-- The other instants are those of the things that it does not end, and those of the things that
begin in it are added. -/
theorem perm_going (same : instants.Perm ((going frames span spans list).map fun one =>
    (thing one, start + (ending spans (frames one) + span one))))
    (inside : ∀ one ∈ list, frames one ≤ spans.length) (more : Nat) {new : List α}
    (fresh : ∀ one ∈ new, frames one = spans.length + 1) :
    ((instants.filter fun instant => !decide (instant.2 ≤ start + spans.sum + more)) ++
        new.map fun one => (thing one, start + spans.sum + more + span one)).Perm
      ((going frames span (spans ++ [more]) (list ++ new)).map fun one =>
        (thing one, start + (ending (spans ++ [more]) (frames one) + span one))) := by
  have begins : going frames span (spans ++ [more]) new = new :=
    going_eq_self fun one member => Nat.le_of_eq (List.length_append.trans (fresh one member).symm)
  have split : going frames span (spans ++ [more]) (list ++ new) =
      going frames span (spans ++ [more]) list ++ new :=
    (List.filter_append ..).trans (congrArg _ begins)
  have later : ∀ one, (!decide (start + (ending spans (frames one) + span one) ≤
      start + spans.sum + more)) = !decide (ending spans (frames one) + span one ≤ spans.sum + more) :=
    fun one => congrArg not (decide_eq_decide.mpr (by omega))
  rw [split, List.map_append]
  refine .append ((same.filter _).trans (.of_eq ?_)) (.of_eq ?_)
  · rw [List.filter_map, going_append inside]
    simp only [Function.comp_def, later]
    refine List.map_congr_left fun one member => ?_
    have member := (List.mem_filter.mp (List.mem_filter.mp member).1).1
    rw [ending_append (inside one member)]
  · refine List.map_congr_left fun one member => ?_
    rw [fresh one member, ending_last]
    exact congrArg (Prod.mk _) (by omega)

end Storybook.Frames
