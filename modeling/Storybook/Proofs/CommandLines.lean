/-
**What a command line says.**

A command line is read item by item: a length in seconds, the wish for real time, touches with their times, and
words that nothing is known of. A touch is written as a name and a number of milliseconds with an `@` between
them. The name may hold that sign too, as it is the last one that counts.

* `Item`, `ReadsAs`: the items that a command line says;
* `Names`, `ScriptedTouch.read_eq_ok_iff`: texts that name a touch, and that they are the ones that are read;
* `Gives`: the touches that a command line gives, in its order;
* `InOrder`, `inOrder_mergeSort`: the same touches in the order of their times;
* `Arguments.touches_of_parse`: the touches of an accepted command line.
-/

import Mathlib.Data.List.Forall2
import Mathlib.Data.Option.Basic
import Storybook.Proofs.Digits

namespace Storybook.Launcher

/-! ### Items -/

/-- Something that a command line says. -/
inductive Item
  | seconds (text : String)
  | realtime
  | touch (text : String)
  /-- A word that nothing is known of. -/
  | other (word : String)
deriving DecidableEq, Repr

namespace Item

/-- The words of an item. -/
def words : Item → List String
  | seconds text => ["--seconds", text]
  | realtime => ["--realtime"]
  | touch text => ["--touch", text]
  | other word => [word]

/-- The text of a touch. -/
def touch? : Item → Option String
  | touch text => some text
  | _ => none

/-- An item is what it looks like: a word that nothing is known of is none of the known ones. -/
def IsProper : Item → Prop
  | other word => word ∉ ["--seconds", "--realtime", "--touch"]
  | _ => True

end Item

/-- **A command line reads as several items**, one after the other. -/
def ReadsAs (words : List String) (items : List Item) : Prop :=
  words = items.flatMap Item.words ∧ ∀ item ∈ items, item.IsProper

theorem readsAs_nil : ReadsAs [] [] :=
  ⟨rfl, nofun⟩

/-- One more item at the beginning. -/
theorem ReadsAs.cons {words : List String} {items : List Item} (reads : ReadsAs words items) (item : Item)
    (proper : item.IsProper) : ReadsAs (item.words ++ words) (item :: items) := by
  obtain ⟨rfl, all⟩ := reads
  exact ⟨rfl, List.forall_mem_cons.mpr ⟨proper, all⟩⟩

/-! ### Touches -/

/-- **A text names a touch**: it is the name and the number of milliseconds, with the last `@` between. -/
def Names (text : String) (touch : ScriptedTouch) : Prop :=
  ∃ time millis, text = touch.name ++ "@" ++ time ∧ '@' ∉ time.toList ∧ Counts time millis ∧
    touch.time = Span.millis millis

/-- A text is parted at its last `@`. -/
theorem splitLast?_eq_some_iff {text before behind : String} :
    splitLast? text = some (before, behind) ↔ text = before ++ "@" ++ behind ∧ '@' ∉ behind.toList := by
  have parts : text = before ++ "@" ++ behind ↔
      text.toList.reverse = behind.toList.reverse ++ '@' :: before.toList.reverse := by
    rw [← String.toList_inj, List.reverse_eq_iff]
    simp
  simp only [splitLast?, Option.bind_eq_bind, Option.bind_eq_some_iff, Option.guard_eq_some',
    Option.pure_def, Option.some.injEq, Prod.mk.injEq, List.contains_iff_mem, parts]
  generalize text.toList.reverse = letters
  constructor
  · rintro ⟨_, there, rfl, rfl⟩
    have absent : '@' ∉ letters.takeWhile (· ≠ '@') := fun inside =>
      absurd (List.all_eq_true.mp List.all_takeWhile '@' inside) (by decide)
    have whole := List.takeWhile_append_dropWhile (p := (· ≠ '@')) (l := letters)
    have found : letters.dropWhile (· ≠ '@') ≠ [] := by
      intro none
      rw [none, List.append_nil] at whole
      rw [whole] at absent
      exact absent there
    have sign : (letters.dropWhile (· ≠ '@')).head found = '@' := by
      simpa using List.head_dropWhile_not (· ≠ '@') found
    have rest := List.cons_head_tail found
    rw [sign] at rest
    refine ⟨?_, ?_⟩
    · simp only [String.toList_ofList, List.reverse_reverse]
      rw [rest, whole]
    · rw [String.toList_ofList, List.mem_reverse]
      exact absent
  · rintro ⟨rfl, last⟩
    have clean : ∀ c ∈ behind.toList.reverse, decide (c ≠ '@') = true := fun c member =>
      decide_eq_true fun same => last (same ▸ List.mem_reverse.mp member)
    refine ⟨(), List.mem_append_right _ List.mem_cons_self, ?_, ?_⟩
    · rw [List.dropWhile_append_of_pos clean, List.dropWhile_cons_of_neg (by decide), List.tail_cons,
        List.reverse_reverse, String.ofList_toList]
    · rw [List.takeWhile_append_of_pos clean, List.takeWhile_cons_of_neg (by decide), List.append_nil,
        List.reverse_reverse, String.ofList_toList]

theorem ScriptedTouch.read_eq_ok_iff {text : String} {touch : ScriptedTouch} :
    ScriptedTouch.read text = .ok touch ↔ Names text touch := by
  unfold ScriptedTouch.read Names
  split
  · rename_i none
    constructor
    · exact nofun
    · rintro ⟨time, millis, parted, last, _⟩
      cases none.symm.trans (splitLast?_eq_some_iff.mpr ⟨parted, last⟩)
  · rename_i name time parted
    constructor
    · intro read
      cases timed : readNumber time with
      | error fault =>
        rw [timed] at read
        cases read
      | ok millis =>
        rw [timed] at read
        cases read
        obtain ⟨same, last⟩ := splitLast?_eq_some_iff.mp parted
        exact ⟨time, millis, same, last, readNumber_eq_ok_iff.mp timed, rfl⟩
    · rintro ⟨other, millis, same, last, timed, due⟩
      cases parted.symm.trans (splitLast?_eq_some_iff.mpr ⟨same, last⟩)
      rw [readNumber_eq_ok_iff.mpr timed]
      obtain ⟨name, span⟩ := touch
      cases due
      rfl

/-- The touches that a command line gives, in its order. -/
def Gives (words : List String) (given : List ScriptedTouch) : Prop :=
  ∃ items, ReadsAs words items ∧ List.Forall₂ Names (items.filterMap Item.touch?) given

/-- **Touches in the order of their times.** Those of one time stay in the order in which they were given. -/
structure InOrder (given order : List ScriptedTouch) : Prop where
  all : order.Perm given
  sorted : order.Pairwise fun first second => first.time ≤ second.time
  stable : ∀ time, order.filter (fun touch => touch.time = time) = given.filter fun touch => touch.time = time

theorem inOrder_mergeSort (given : List ScriptedTouch) :
    InOrder given (given.mergeSort fun first second => first.time ≤ second.time) := by
  have trans : ∀ first second third : ScriptedTouch, decide (first.time ≤ second.time) = true →
      decide (second.time ≤ third.time) = true → decide (first.time ≤ third.time) = true := by
    simp only [decide_eq_true_eq]
    exact fun _ _ _ => Nat.le_trans
  have total : ∀ first second : ScriptedTouch,
      (decide (first.time ≤ second.time) || decide (second.time ≤ first.time)) = true := by
    simp only [Bool.or_eq_true, decide_eq_true_eq]
    exact fun _ _ => Nat.le_total _ _
  have all := List.mergeSort_perm given fun first second => decide (first.time ≤ second.time)
  refine ⟨all, ?_, fun time => ?_⟩
  · simpa only [decide_eq_true_eq] using List.pairwise_mergeSort trans total given
  · -- The touches of one time are in order as they stand, so the sorting keeps them in this order.
    have equal : (given.filter fun touch => touch.time = time).Pairwise
        fun first second => decide (first.time ≤ second.time) = true := by
      refine List.pairwise_of_forall_mem_list fun first here second there => ?_
      have same := of_decide_eq_true (List.mem_filter.mp here).2
      have other := of_decide_eq_true (List.mem_filter.mp there).2
      exact decide_eq_true (Nat.le_of_eq (same.trans other.symm))
    have kept := (List.sublist_mergeSort trans total equal List.filter_sublist).filter
      fun touch => decide (touch.time = time)
    simp only [List.filter_filter, Bool.and_self] at kept
    exact (kept.eq_of_length (all.filter _).length_eq.symm).symm

/-! ### Accepted command lines -/

namespace Arguments

/-- The items that are read, and the touches among them. -/
theorem touches_collect {arguments result : Arguments} {remarks : List Remark} {words : List String}
    (read : (collect arguments remarks words).2 = .ok result) :
    ∃ given, Gives words given ∧ result.touches = arguments.touches ++ given := by
  fun_induction collect arguments remarks words with
  | case1 arguments =>
    cases read
    exact ⟨[], ⟨[], readsAs_nil, .nil⟩, (List.append_nil _).symm⟩
  | case2 => cases read
  | case3 arguments remarks text rest seconds _ ih =>
    obtain ⟨given, ⟨items, readsAs, named⟩, added⟩ := ih read
    exact ⟨given, ⟨_, readsAs.cons (.seconds text) trivial, named⟩, added⟩
  | case4 => cases read
  | case5 arguments remarks rest ih =>
    obtain ⟨given, ⟨items, readsAs, named⟩, added⟩ := ih read
    exact ⟨given, ⟨_, readsAs.cons .realtime trivial, named⟩, added⟩
  | case6 => cases read
  | case7 arguments remarks text rest touch found ih =>
    obtain ⟨given, ⟨items, readsAs, named⟩, added⟩ := ih read
    refine ⟨touch :: given, ⟨_, readsAs.cons (.touch text) trivial, ?_⟩, ?_⟩
    · exact .cons (ScriptedTouch.read_eq_ok_iff.mp found) named
    · rw [added]
      exact List.append_cons _ _ _ |>.symm
  | case8 => cases read
  | case9 arguments remarks word rest lone seconds realtime last touch text ih =>
    obtain ⟨given, ⟨items, readsAs, named⟩, added⟩ := ih read
    have unknown : (Item.other word).IsProper := by
      show word ∉ ["--seconds", "--realtime", "--touch"]
      -- A known word that wants a value is refused at the end of the line, and takes the next word before it.
      cases rest <;> simp_all
    exact ⟨given, ⟨_, readsAs.cons (.other word) unknown, named⟩, added⟩

theorem parse_result (words : List String) : (parse words).2 = sorted <$> (collect none [] words).2 :=
  rfl

/-- **The touches of an accepted command line** are those that it gives, in the order of their times. -/
theorem touches_of_parse {words : List String} {arguments : Arguments}
    (accepted : (parse words).2 = .ok arguments) :
    ∃ given, Gives words given ∧ InOrder given arguments.touches := by
  rw [parse_result] at accepted
  cases read : (collect none [] words).2 with
  | error fault =>
    rw [read] at accepted
    cases accepted
  | ok result =>
    rw [read] at accepted
    cases accepted
    obtain ⟨given, gives, added⟩ := touches_collect read
    refine ⟨given, gives, ?_⟩
    show InOrder given (result.touches.mergeSort _)
    rw [added]
    exact inOrder_mergeSort given

end Arguments

end Storybook.Launcher
