/-
**Tables under insertion.**

Insertion puts one entry under its key and leaves the entries under other keys alone. A table that
is built by insertion is sorted, and one that is sorted is what insertion makes of its entries in
order.

* `Table.keys`, `Table.Sorted`: the keys of a table, in strictly increasing order;
* `Table.find?_insert`: an entry is found where it was put;
* `Table.Sorted.insert`, `Table.foldl_insert`: sorted tables are the tables made by insertion.
-/

import Mathlib.Data.List.Basic
import Storybook.Table

namespace Storybook.Table

variable {α β : Type} {table : Table α} {key other : String} {value : α}

/-- The keys of a table in order. -/
def keys (table : Table α) : List String :=
  table.map Prod.fst

/-- **The keys of a table increase.** -/
def Sorted (table : Table α) : Prop :=
  table.keys.Pairwise (· < ·)

@[simp]
theorem keys_cons (entry : String × α) : keys (entry :: table) = entry.1 :: table.keys :=
  rfl

theorem keys_append (first second : Table α) :
    keys (first ++ second) = first.keys ++ second.keys :=
  List.map_append

theorem keys_map (change : α → β) :
    keys (table.map fun entry => (entry.1, change entry.2)) = table.keys := by
  rw [keys, keys, List.map_map]
  rfl

theorem sorted_nil : Sorted ([] : Table α) :=
  .nil

/-! ### Looking up -/

theorem find?_cons (first : String) (kept : α) :
    find? ((first, kept) :: table) key = if key = first then some kept else table.find? key := by
  rw [find?, List.lookup_cons, find?]
  by_cases same : key = first
  · simp [same]
  · simp [same, beq_eq_false_iff_ne.2 same]

theorem mem_of_find? (found : table.find? key = some value) : (key, value) ∈ table := by
  induction table with
  | nil => cases found
  | cons entry rest ih =>
    rw [find?_cons] at found
    split at found
    case isTrue same =>
      cases found
      rw [same]
      exact List.mem_cons_self
    case isFalse => exact List.mem_cons_of_mem _ (ih found)

theorem find?_append (first second : Table α) (key : String) :
    find? (first ++ second) key = (first.find? key).or (second.find? key) :=
  List.lookup_append

theorem find?_eq_none (absent : key ∉ table.keys) : table.find? key = none := by
  cases found : table.find? key with
  | none => rfl
  | some value => exact absurd (List.mem_map_of_mem (mem_of_find? found)) absent

theorem find?_map (change : α → β) :
    find? (table.map fun entry => (entry.1, change entry.2)) key =
      (table.find? key).map change := by
  induction table with
  | nil => rfl
  | cons entry rest ih =>
    rw [List.map_cons, find?_cons, find?_cons, ih]
    split <;> rfl

/-- **An entry is found where it was put**, and what stands under other keys stays. -/
theorem find?_insert : (table.insert key value).find? other =
    if other = key then some value else table.find? other := by
  induction table with
  | nil => rw [insert, find?_cons]
  | cons entry rest ih =>
    obtain ⟨first, kept⟩ := entry
    rw [insert]
    split
    case isTrue same =>
      subst same
      simp only [find?_cons]
      split <;> rfl
    case isFalse different =>
      split
      · rw [find?_cons]
      · rw [find?_cons, find?_cons, ih]
        split
        case isTrue found =>
          rw [found, if_neg fun same => different same.symm]
        case isFalse => rfl

/-! ### Order -/

theorem mem_keys_insert :
    other ∈ (table.insert key value).keys ↔ other = key ∨ other ∈ table.keys := by
  induction table with
  | nil => simp [insert]
  | cons entry rest ih =>
    rw [insert]
    split
    case isTrue same => simp [same]
    case isFalse =>
      split
      · simp
      · simp only [keys_cons, List.mem_cons, ih]
        exact or_left_comm

theorem mem_insert {entry : String × α} (inside : entry ∈ table.insert key value) :
    entry = (key, value) ∨ entry ∈ table := by
  induction table with
  | nil => exact .inl (List.mem_singleton.1 inside)
  | cons first rest ih =>
    rw [insert] at inside
    split at inside
    · exact (List.mem_cons.1 inside).imp_right (List.mem_cons_of_mem _)
    · split at inside
      · exact List.mem_cons.1 inside
      · rcases List.mem_cons.1 inside with rfl | inside
        · exact .inr List.mem_cons_self
        · exact (ih inside).imp_right (List.mem_cons_of_mem _)

/-- A new key makes a table longer. -/
theorem length_insert (new : key ∉ table.keys) :
    (table.insert key value).length = table.length + 1 := by
  induction table with
  | nil => rfl
  | cons entry rest ih =>
    rw [keys_cons, List.mem_cons, not_or] at new
    rw [insert, if_neg new.1]
    split
    · rfl
    · rw [List.length_cons, ih new.2, List.length_cons]

/-- **Insertion keeps a table sorted.** -/
theorem Sorted.insert (sorted : table.Sorted) : (table.insert key value).Sorted := by
  induction table with
  | nil => exact List.pairwise_singleton _ _
  | cons entry rest ih =>
    obtain ⟨first, kept⟩ := entry
    obtain ⟨least, rises⟩ := List.pairwise_cons.1 sorted
    rw [Table.insert]
    split
    case isTrue same =>
      subst same
      rw [Sorted, keys_cons]
      exact List.pairwise_cons.2 ⟨least, rises⟩
    case isFalse different =>
      split
      case isTrue less =>
        refine List.pairwise_cons.2 ⟨?_, List.pairwise_cons.2 ⟨least, rises⟩⟩
        intro later inside
        rcases List.mem_cons.1 inside with rfl | inside
        · exact less
        · exact String.lt_trans less (least later inside)
      case isFalse notLess =>
        refine List.pairwise_cons.2 ⟨?_, ih rises⟩
        intro later inside
        rcases mem_keys_insert.1 inside with rfl | inside
        · grind
        · exact least later inside

/-- A key above all others goes to the end. -/
theorem insert_of_lt (last : ∀ other ∈ table.keys, other < key) :
    table.insert key value = table ++ [(key, value)] := by
  induction table with
  | nil => rfl
  | cons entry rest ih =>
    obtain ⟨first, kept⟩ := entry
    have less : first < key := last first List.mem_cons_self
    have different : ¬ key = first := by
      rintro rfl
      exact String.lt_irrefl key less
    rw [insert, if_neg different, if_neg (String.lt_asymm less), List.cons_append,
      ih fun other inside => last other (List.mem_cons_of_mem _ inside)]

/-- **A sorted table is what insertion makes of its entries**, whatever sorted table they follow. -/
theorem foldl_insert (before table : Table α) (sorted : (before ++ table).Sorted) :
    table.foldl (fun table entry => Table.insert entry.1 entry.2 table) before =
      before ++ table := by
  induction table generalizing before with
  | nil => exact (List.append_nil before).symm
  | cons entry rest ih =>
    have last : ∀ other ∈ before.keys, other < entry.1 := by
      rw [Sorted, keys_append, List.pairwise_append] at sorted
      exact fun other inside => sorted.2.2 other inside entry.1 List.mem_cons_self
    rw [List.append_cons] at sorted ⊢
    rw [List.foldl_cons, insert_of_lt last]
    exact ih (before ++ [entry]) sorted

end Storybook.Table
