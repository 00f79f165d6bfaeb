/-
**Which texts are colours.**

A colour text has its marks first: any number of `#`, then of `0x`, then of `0X`. Hexadecimal digits in either
case follow, one at least, and the number that they make up is the colour if it has thirty-two bits. These
texts are read, each as its own number, and so are those with one plus sign between the marks and the digits.
No other text is read.

* `Colour.Writes`: a text of this form, with a given sign before its digits;
* `Colour.ofText?_eq_some_iff`: reading a text;
* `Colour.reads_texts_exactly`: the texts that are colours in a document.

The marks are taken off greedily, but none is mistaken for what follows it: the `#` and the letters of the marks
are neither signs nor digits, and no kind of marks holds the letter of another.
-/

import Mathlib.Data.Option.Basic
import Storybook.Proofs.Digits
import Storybook.Story.Colour

namespace Storybook.Story.Colour

open Storybook.Data

/-! ### The form of colour texts -/

/-- Several marks of a zero and a letter. -/
def marked (letter : Char) (count : Nat) (rest : List Char) : List Char :=
  (List.replicate count ['0', letter]).flatten ++ rest

/-- The characters of a colour text: its marks, and what follows them. -/
def spelled (hashes small large : Nat) (rest : List Char) : List Char :=
  List.replicate hashes '#' ++ marked 'x' small (marked 'X' large rest)

/-- **A text writes a colour** with a given sign before its digits. -/
def Writes (sign : List Char) (text : String) (colour : Nat) : Prop :=
  ∃ hashes small large digits, text.toList = spelled hashes small large (sign ++ digits) ∧ digits ≠ [] ∧
    Denotes 16 digits colour ∧ colour < limit

/-! ### Digits and signs -/

variable {digits rest : List Char} {number : Nat}

theorem digits?_eq_some_iff :
    digits? digits = some number ↔ digits ≠ [] ∧ Denotes 16 digits number ∧ number < limit := by
  simp only [digits?, Option.bind_eq_bind, Option.bind_eq_some_iff, Option.guard_eq_some',
    Option.pure_def, Option.some.injEq, Json.hexNumber?_eq_some_iff]
  constructor
  · rintro ⟨_, some, _, denotes, _, short, rfl⟩
    exact ⟨some, denotes, short⟩
  · rintro ⟨some, denotes, short⟩
    exact ⟨(), some, number, denotes, (), short, rfl⟩

/-- The number behind an optional plus sign. -/
theorem signed?_eq_some_iff :
    signed? rest = some number ↔
      ∃ digits, (rest = digits ∨ rest = '+' :: digits) ∧ digits? digits = some number := by
  unfold signed?
  split
  · rename_i tail
    constructor
    · exact fun read => ⟨tail, .inr rfl, read⟩
    · rintro ⟨digits, rfl | same, read⟩
      · have denotes := (digits?_eq_some_iff.mp read).2.1
        exact absurd List.mem_cons_self (denotes.not_mem (Json.not_isDigit_of_hexValue? rfl))
      · cases same
        exact read
  · rename_i unsigned
    constructor
    · exact fun read => ⟨rest, .inl rfl, read⟩
    · rintro ⟨digits, rfl | rfl, read⟩
      · exact read
      · exact absurd rfl (unsigned digits)

/-! ### Marks -/

theorem marked_succ (letter : Char) (count : Nat) (rest : List Char) :
    marked letter (count + 1) rest = '0' :: letter :: marked letter count rest :=
  rfl

theorem not_mem_marked {letter other : Char} (count : Nat) (zero : other ≠ '0') (different : other ≠ letter)
    (absent : other ∉ rest) : other ∉ marked letter count rest := by
  induction count with
  | zero => exact absent
  | succ count ih =>
    exact List.not_mem_cons_of_ne_of_not_mem zero (List.not_mem_cons_of_ne_of_not_mem different ih)

/-- Marks of one kind are taken off, all of them and no more. -/
theorem dropMarks_marked {letter : Char} (count : Nat) (absent : letter ∉ rest) :
    dropMarks letter (marked letter count rest) = rest := by
  induction count with
  | zero =>
    show dropMarks letter rest = rest
    unfold dropMarks
    split
    · rename_i c tail
      refine if_neg fun same => absent ?_
      exact List.mem_cons_of_mem _ (same ▸ List.mem_cons_self)
    · rfl
  | succ count ih =>
    rw [marked_succ, dropMarks, if_pos rfl]
    exact ih

/-- What is taken off are marks. -/
theorem exists_marked (letter : Char) (text : List Char) :
    ∃ count, text = marked letter count (dropMarks letter text) := by
  fun_induction dropMarks letter text with
  | case1 rest ih =>
    obtain ⟨count, same⟩ := ih
    exact ⟨count + 1, by rw [marked_succ, ← same]⟩
  | case2 => exact ⟨0, rfl⟩
  | case3 => exact ⟨0, rfl⟩

theorem dropHashes_append (count : Nat) (absent : '#' ∉ rest) :
    dropHashes (List.replicate count '#' ++ rest) = rest := by
  unfold dropHashes
  rw [List.dropWhile_append_of_pos fun c member => decide_eq_true (List.eq_of_mem_replicate member)]
  cases rest with
  | nil => rfl
  | cons c tail =>
    exact List.dropWhile_cons_of_neg fun same => absent (of_decide_eq_true same ▸ List.mem_cons_self)

theorem exists_replicate_append (text : List Char) :
    ∃ count, text = List.replicate count '#' ++ dropHashes text := by
  have hashes : ∀ c ∈ text.takeWhile (· = '#'), c = '#' := fun c member =>
    of_decide_eq_true (List.all_eq_true.mp List.all_takeWhile c member)
  refine ⟨(text.takeWhile (· = '#')).length, ?_⟩
  rw [← List.eq_replicate_iff.mpr ⟨rfl, hashes⟩]
  exact List.takeWhile_append_dropWhile.symm

/-- A text without all its marks. -/
def stripped (text : List Char) : List Char :=
  dropMarks 'X' (dropMarks 'x' (dropHashes text))

theorem exists_spelled (text : List Char) :
    ∃ hashes small large, text = spelled hashes small large (stripped text) := by
  obtain ⟨hashes, first⟩ := exists_replicate_append text
  obtain ⟨small, second⟩ := exists_marked 'x' (dropHashes text)
  obtain ⟨large, third⟩ := exists_marked 'X' (dropMarks 'x' (dropHashes text))
  refine ⟨hashes, small, large, ?_⟩
  show text = List.replicate hashes '#' ++ marked 'x' small (marked 'X' large (stripped text))
  rw [show marked 'X' large (stripped text) = _ from third.symm, ← second]
  exact first

/-- No mark is mistaken for what follows it. -/
theorem stripped_spelled (hashes small large : Nat) (noHash : '#' ∉ rest) (noSmall : 'x' ∉ rest)
    (noLarge : 'X' ∉ rest) : stripped (spelled hashes small large rest) = rest := by
  have between : 'x' ∉ marked 'X' large rest := not_mem_marked large (by decide) (by decide) noSmall
  have before : '#' ∉ marked 'x' small (marked 'X' large rest) :=
    not_mem_marked small (by decide) (by decide) (not_mem_marked large (by decide) (by decide) noHash)
  unfold stripped spelled
  rw [dropHashes_append hashes before, dropMarks_marked small between, dropMarks_marked large noLarge]

/-! ### Texts -/

theorem Writes.ofText? {sign : List Char} {text : String} {colour : Nat} (writes : Writes sign text colour)
    (allowed : sign = [] ∨ sign = ['+']) : ofText? text = some colour := by
  obtain ⟨hashes, small, large, digits, same, some, denotes, short⟩ := writes
  have absent {other : Char} (none : Json.hexValue? other = none) (different : other ≠ '+') :
      other ∉ sign ++ digits := by
    refine List.mem_append.not.mpr (not_or.mpr ⟨?_, denotes.not_mem (Json.not_isDigit_of_hexValue? none)⟩)
    rcases allowed with rfl | rfl
    · exact List.not_mem_nil
    · exact List.mem_singleton.not.mpr different
  show signed? (stripped text.toList) = _
  rw [same, stripped_spelled hashes small large (absent rfl (by decide)) (absent rfl (by decide))
    (absent rfl (by decide))]
  have before : sign ++ digits = digits ∨ sign ++ digits = '+' :: digits :=
    allowed.imp (congrArg (· ++ digits)) (congrArg (· ++ digits))
  exact signed?_eq_some_iff.mpr ⟨digits, before, digits?_eq_some_iff.mpr ⟨some, denotes, short⟩⟩

/-- **A text is read as the colour that it writes**, with or without a plus sign before the digits. -/
theorem ofText?_eq_some_iff {text : String} {colour : Nat} :
    ofText? text = some colour ↔ Writes [] text colour ∨ Writes ['+'] text colour := by
  constructor
  · intro read
    obtain ⟨digits, signed, read⟩ := signed?_eq_some_iff.mp (show signed? (stripped text.toList) = _ from read)
    obtain ⟨hashes, small, large, same⟩ := exists_spelled text.toList
    refine signed.imp (fun plain => ?_) fun plus => ?_
    · exact ⟨hashes, small, large, digits, same.trans (congrArg _ plain), digits?_eq_some_iff.mp read⟩
    · exact ⟨hashes, small, large, digits, same.trans (congrArg _ plus), digits?_eq_some_iff.mp read⟩
  · rintro (plain | plus)
    · exact plain.ofText? (.inl rfl)
    · exact plus.ofText? (.inr rfl)

/-! ### Colours in a document -/

/-- What writes a colour without a sign has no plus sign at all. -/
theorem Writes.unsigned {text : String} {colour : Nat} (writes : Writes [] text colour) :
    '+' ∉ text.toList := by
  obtain ⟨hashes, small, large, digits, same, _, denotes, _⟩ := writes
  have digitsOnly : '+' ∉ [] ++ digits := denotes.not_mem (Json.not_isDigit_of_hexValue? rfl)
  rw [same]
  refine List.mem_append.not.mpr (not_or.mpr ⟨fun member => ?_, ?_⟩)
  · cases List.eq_of_mem_replicate member
  · exact not_mem_marked small (by decide) (by decide) (not_mem_marked large (by decide) (by decide) digitsOnly)

theorem decode_text (text : String) :
    decode (.text text) = (ofText? text).elim (.error (.badColour text)) .ok := by
  have settled : (Node.text text).settle = .ok (.text text) := rfl
  simp only [decode, settled, bind, Except.bind]
  cases ofText? text <;> rfl

theorem decode_text_eq_ok {text : String} {colour : Nat} :
    decode (.text text) = .ok colour ↔ Writes [] text colour ∨ Writes ['+'] text colour := by
  rw [decode_text, ← ofText?_eq_some_iff]
  cases ofText? text <;> simp

/-- No text writes a colour with a plus sign and another without. -/
theorem Writes.not_unsigned {text : String} {colour other : Nat} (writes : Writes ['+'] text colour) :
    ¬ Writes [] text other := by
  obtain ⟨hashes, small, large, digits, same, _⟩ := writes
  refine fun plain => plain.unsigned ?_
  rw [same]
  simp [spelled, marked]

/-- **Which texts are colours.** A text is read as a colour exactly if it writes that colour, where one plus
sign may stand between the marks and the digits; any other text is refused as a bad colour. It is this sign
alone that makes a text a colour that is none without it. Behind any marks and with any padding a number is read
back from its digits exactly if it is a colour. -/
theorem reads_texts_exactly (text : String) :
    (∀ colour, decode (.text text) = .ok colour ↔ Writes [] text colour ∨ Writes ['+'] text colour) ∧
    (decode (.text text) = .error (.badColour text) ↔
      ∀ colour, ¬ Writes [] text colour ∧ ¬ Writes ['+'] text colour) ∧
    ((∀ colour, decode (.text text) = .ok colour ↔ Writes [] text colour) ↔
      ∀ colour, ¬ Writes ['+'] text colour) ∧
    ∀ hashes small large zeros number,
      let digits := List.replicate zeros '0' ++ Nat.toDigits 16 number
      decode (.text (String.ofList (spelled hashes small large digits))) = .ok number ↔ number < limit := by
  refine ⟨fun _ => decode_text_eq_ok, ?_, ⟨fun meets colour signed => ?_, fun unsigned colour => ?_⟩,
    fun hashes small large zeros number => ?_⟩
  · simp only [← not_or, ← ofText?_eq_some_iff, decode_text]
    cases ofText? text <;> simp
  · exact signed.not_unsigned ((meets colour).mp (decode_text_eq_ok.mpr (.inr signed)))
  · exact decode_text_eq_ok.trans (or_iff_left (unsigned colour))
  · constructor
    · intro read
      rcases decode_text_eq_ok.mp read with ⟨_, _, _, _, _, _, _, short⟩ | ⟨_, _, _, _, _, _, _, short⟩
      · exact short
      · exact short
    · intro short
      have row : Denotes 16 (List.replicate zeros '0' ++ Nat.toDigits 16 number) number :=
        (denotes_toDigits (by decide) number).padded (by decide) zeros
      refine decode_text_eq_ok.mpr (.inl ⟨hashes, small, large, _, String.toList_ofList, ?_, row, short⟩)
      exact List.append_ne_nil_of_right_ne_nil _ (Nat.toDigits_ne_nil)

/-- A plus sign before the digits is read over, although no colour is written with it. -/
theorem plus_is_read_over :
    decode (.text "#+ff8800") = .ok 0xff8800 ∧ ∀ colour, ¬ Writes [] "#+ff8800" colour :=
  ⟨rfl, fun _ writes => writes.unsigned (by decide)⟩

end Storybook.Story.Colour
