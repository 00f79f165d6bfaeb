/-
**Rows of digits.**

A row of digits makes up a number in a base, the first digit with the greatest weight.

* `IsDigit`, `Denotes`: digits, and the number that a row of them makes up;
* `denotes_iff_foldl`: the number grows digit by digit as the row is read;
* `Denotes.padded`, `denotes_toDigits`: every number has rows that make it up;
* `Json.hexNumber?_eq_some_iff`: hexadecimal rows as they are read;
* `Launcher.Counts`, `Launcher.readNumber_eq_ok_iff`: texts that count, and that they are the ones that are read.
-/

import Mathlib.Data.Nat.Digits.Lemmas
import Storybook.Json.Token
import Storybook.Launcher.Arguments

namespace Storybook

/-- A character is the digit of a value in a base, a letter in either case. -/
def IsDigit (base : Nat) (c : Char) (value : Nat) : Prop :=
  value < base ∧ (c = Nat.digitChar value ∨ c = (Nat.digitChar value).toUpper)

/-- **A row of digits makes up a number** in a base. -/
def Denotes (base : Nat) (digits : List Char) (number : Nat) : Prop :=
  ∃ values, List.Forall₂ (IsDigit base) digits values ∧ Nat.ofDigits base values.reverse = number

variable {base : Nat} {c : Char} {digits : List Char} {value number before : Nat}

/-- A number, and a digit behind it. -/
def shift (base total value : Nat) : Nat :=
  value + base * total

theorem denotes_iff_foldl : Denotes base digits number ↔
    ∃ values, List.Forall₂ (IsDigit base) digits values ∧ values.foldl (shift base) 0 = number := by
  unfold Denotes
  simp only [Nat.ofDigits_eq_foldr, List.foldr_reverse, Nat.cast_id]
  rfl

/-- A character that is no digit stands in no row of digits. -/
theorem Denotes.not_mem (denotes : Denotes base digits number) (other : ∀ value, ¬ IsDigit base c value) :
    c ∉ digits := by
  obtain ⟨values, row, _⟩ := denotes
  clear * - row other
  induction row with
  | nil => exact List.not_mem_nil
  | cons digit _ ih =>
    refine List.not_mem_cons_of_ne_of_not_mem ?_ ih
    rintro rfl
    exact other _ digit

/-- One more digit at the end. -/
theorem Denotes.concat (denotes : Denotes base digits number) (digit : IsDigit base c value) :
    Denotes base (digits ++ [c]) (base * number + value) := by
  obtain ⟨values, row, rfl⟩ := denotes
  refine ⟨values ++ [value], List.rel_append row (.cons digit .nil), ?_⟩
  rw [List.reverse_append, List.reverse_singleton, List.singleton_append, Nat.ofDigits_cons, Nat.add_comm]

/-- Zeros before the digits count for nothing. -/
theorem Denotes.padded (denotes : Denotes base digits number) (positive : 0 < base) (zeros : Nat) :
    Denotes base (List.replicate zeros '0' ++ digits) number := by
  obtain ⟨values, row, rfl⟩ := denotes
  have zero : IsDigit base '0' 0 := ⟨positive, .inl rfl⟩
  have zeroRow : List.Forall₂ (IsDigit base) (List.replicate zeros '0') (List.replicate zeros 0) := by
    induction zeros with
    | zero => exact .nil
    | succ zeros ih => exact .cons zero ih
  refine ⟨List.replicate zeros 0 ++ values, List.rel_append zeroRow row, ?_⟩
  rw [List.reverse_append, List.reverse_replicate, Nat.ofDigits_append_replicate_zero]

/-- The digits of a number make it up. -/
theorem denotes_toDigits (wide : 1 < base) (number : Nat) :
    Denotes base (Nat.toDigits base number) number := by
  induction number using Nat.strong_induction_on with
  | _ number ih =>
    have last : number % base < base := Nat.mod_lt _ (by omega)
    have digit : IsDigit base (Nat.digitChar (number % base)) (number % base) := ⟨last, .inl rfl⟩
    by_cases short : number < base
    · rw [Nat.toDigits_of_lt_base short]
      rw [Nat.mod_eq_of_lt short] at digit
      exact ⟨[number], .cons digit .nil, Nat.ofDigits_singleton⟩
    · have long : base ≤ number := Nat.le_of_not_lt short
      have smaller : number / base < number := Nat.div_lt_self (by omega) wide
      have split := Nat.toDigits_append_toDigits wide (Nat.div_pos long (by omega)) last
      rw [Nat.div_add_mod, Nat.toDigits_of_lt_base last] at split
      have joined := (ih _ smaller).concat digit
      rw [Nat.div_add_mod, split] at joined
      exact joined

/-! ### Hexadecimal digits -/

namespace Json

theorem toNat_digitChar : ∀ value < 16,
    (Nat.digitChar value).toNat = value + (if value < 10 then 48 else 87) ∧
      (Nat.digitChar value).toUpper.toNat = value + (if value < 10 then 48 else 55) := by
  decide

/-- The digits that are read are the hexadecimal ones, each at its value. -/
theorem hexValue?_eq_some_iff : hexValue? c = some value ↔ IsDigit 16 c value := by
  have between {first last : Char} :
      first ≤ c ∧ c ≤ last ↔ first.toNat ≤ c.toNat ∧ c.toNat ≤ last.toNat := Iff.rfl
  have decimal : '0'.toNat = 48 ∧ '9'.toNat = 57 := ⟨rfl, rfl⟩
  have small : 'a'.toNat = 97 ∧ 'f'.toNat = 102 := ⟨rfl, rfl⟩
  have large : 'A'.toNat = 65 ∧ 'F'.toNat = 70 := ⟨rfl, rfl⟩
  unfold hexValue? IsDigit
  simp only [between, decimal, small, large]
  constructor
  · intro read
    have short : value < 16 := by grind
    obtain ⟨lower, upper⟩ := toNat_digitChar value short
    refine ⟨short, ?_⟩
    rw [← Char.toNat_inj, ← Char.toNat_inj, lower, upper]
    grind
  · rintro ⟨short, same⟩
    obtain ⟨lower, upper⟩ := toNat_digitChar value short
    rw [← Char.toNat_inj, ← Char.toNat_inj, lower, upper] at same
    grind

theorem not_isDigit_of_hexValue? (none : hexValue? c = none) (value : Nat) : ¬ IsDigit 16 c value :=
  fun digit => nomatch none.symm.trans (hexValue?_eq_some_iff.mpr digit)

/-- A row of digits is read from a number on as the digits that follow those of that number. -/
theorem foldlM_hexValue?_eq_some_iff :
    digits.foldlM (fun total c => (total * 16 + ·) <$> hexValue? c) before = some number ↔
      ∃ values, List.Forall₂ (IsDigit 16) digits values ∧ values.foldl (shift 16) before = number := by
  induction digits generalizing before with
  | nil => simp
  | cons c rest ih =>
    rw [List.foldlM_cons, Option.bind_eq_bind, Option.bind_eq_some_iff]
    constructor
    · rintro ⟨_, first, others⟩
      obtain ⟨value, digit, rfl⟩ := Option.map_eq_some_iff.mp first
      obtain ⟨values, row, rfl⟩ := ih.mp others
      refine ⟨value :: values, .cons (hexValue?_eq_some_iff.mp digit) row, ?_⟩
      rw [List.foldl_cons, shift, Nat.add_comm, Nat.mul_comm]
    · rintro ⟨_, row, rfl⟩
      obtain ⟨value, values, digit, others, rfl⟩ := List.forall₂_cons_left_iff.mp row
      refine ⟨before * 16 + value, ?_, ih.mpr ⟨values, others, ?_⟩⟩
      · exact Option.map_eq_some_iff.mpr ⟨value, hexValue?_eq_some_iff.mpr digit, rfl⟩
      · rw [List.foldl_cons, shift, Nat.add_comm, Nat.mul_comm]

/-- **A row of hexadecimal digits is read as the number that it makes up.** -/
theorem hexNumber?_eq_some_iff : hexNumber? digits = some number ↔ Denotes 16 digits number := by
  rw [hexNumber?, foldlM_hexValue?_eq_some_iff, denotes_iff_foldl]

end Json

/-! ### Decimal digits -/

namespace Launcher

/-- The digits that are read are the decimal ones, each at its value. -/
theorem isDigit_ten_iff : IsDigit 10 c value ↔ c.isDigit = true ∧ c.toNat - '0'.toNat = value := by
  have zero : '0'.toNat = 48 := rfl
  have between : c.isDigit = true ↔ 48 ≤ c.toNat ∧ c.toNat ≤ 57 := by
    rw [Char.isDigit, Bool.and_eq_true, decide_eq_true_iff, decide_eq_true_iff]
    rfl
  unfold IsDigit
  rw [between, zero]
  constructor
  · rintro ⟨short, same⟩
    obtain ⟨lower, upper⟩ := Json.toNat_digitChar value (by omega)
    rw [← Char.toNat_inj, ← Char.toNat_inj, lower, upper, if_pos short, if_pos short] at same
    omega
  · rintro ⟨inside, rfl⟩
    have short : c.toNat - 48 < 10 := by omega
    obtain ⟨lower, _⟩ := Json.toNat_digitChar (c.toNat - 48) (by omega)
    refine ⟨short, .inl ?_⟩
    rw [← Char.toNat_inj, lower, if_pos short]
    omega

/-- The number does not shrink while its digits are read. -/
theorem le_foldl_shift (values : List Nat) : before ≤ values.foldl (shift 10) before := by
  induction values generalizing before with
  | nil => exact Nat.le_refl _
  | cons value rest ih =>
    refine Nat.le_trans ?_ ih
    unfold shift
    omega

/-- A row of digits is read from a number on. As the number only grows, it is enough that it is below the
limit at the end. -/
theorem readDigits_eq_ok_iff {limit : Nat} (below : before < limit) :
    readDigits limit before digits = .ok number ↔
      (∃ values, List.Forall₂ (IsDigit 10) digits values ∧ values.foldl (shift 10) before = number) ∧
        number < limit := by
  induction digits generalizing before with
  | nil =>
    constructor
    · rintro ⟨⟩
      exact ⟨⟨[], .nil, rfl⟩, below⟩
    · rintro ⟨⟨_, ⟨⟩, rfl⟩, _⟩
      rfl
  | cons c rest ih =>
    have next : before * 10 + (c.toNat - '0'.toNat) = shift 10 before (c.toNat - '0'.toNat) := by
      unfold shift
      omega
    unfold readDigits
    rw [next]
    by_cases digit : c.isDigit = true
    · rw [if_neg (not_not.mpr digit)]
      have first : IsDigit 10 c (c.toNat - '0'.toNat) := isDigit_ten_iff.mpr ⟨digit, rfl⟩
      dsimp only
      constructor
      · intro read
        split at read
        · rename_i inside
          obtain ⟨⟨values, row, same⟩, short⟩ := (ih inside).mp read
          exact ⟨⟨_ :: values, .cons first row, same⟩, short⟩
        · cases read
      · rintro ⟨⟨_, row, rfl⟩, short⟩
        obtain ⟨value, values, digit, others, rfl⟩ := List.forall₂_cons_left_iff.mp row
        obtain ⟨_, rfl⟩ := isDigit_ten_iff.mp digit
        have inside := Nat.lt_of_le_of_lt (le_foldl_shift values) short
        rw [if_pos inside]
        exact (ih inside).mpr ⟨⟨values, others, rfl⟩, short⟩
    · rw [if_pos digit]
      constructor
      · exact nofun
      · rintro ⟨⟨_, row, _⟩, _⟩
        obtain ⟨value, _, first, _, _⟩ := List.forall₂_cons_left_iff.mp row
        exact absurd (isDigit_ten_iff.mp first).1 digit

/-- **A text counts**: it is a row of decimal digits, one at least, perhaps behind a plus sign, that makes up a
number of sixty-four bits. -/
def Counts (text : String) (number : Nat) : Prop :=
  ∃ digits, (text.toList = digits ∨ text.toList = '+' :: digits) ∧ digits ≠ [] ∧ Denotes 10 digits number ∧
    number < powerOfTwo 64

/-- **A text is read as the number that it counts.** -/
theorem readNumber_eq_ok_iff {text : String} : readNumber text = .ok number ↔ Counts text number := by
  have row {digits : List Char} : readDigits (powerOfTwo 64) 0 digits = .ok number ↔
      Denotes 10 digits number ∧ number < powerOfTwo 64 := by
    rw [readDigits_eq_ok_iff (show 0 < powerOfTwo 64 from Nat.two_pow_pos 64), denotes_iff_foldl]
  have sign : ∀ value, ¬ IsDigit 10 '+' value := fun value digit =>
    absurd (isDigit_ten_iff.mp digit).1 (by decide)
  unfold readNumber Counts
  split
  · rename_i none
    simp [none]
  · rename_i lone
    constructor
    · exact nofun
    · rintro ⟨digits, same | same, some, denotes, _⟩
      · exact absurd (same ▸ lone ▸ List.mem_cons_self) (denotes.not_mem sign)
      · exact absurd (List.cons.inj (same.symm.trans lone)).2 some
  · rename_i digits some signed
    rw [row, signed]
    constructor
    · rintro ⟨denotes, short⟩
      exact ⟨digits, .inr rfl, fun none => some (none ▸ rfl), denotes, short⟩
    · rintro ⟨other, rfl | same, _, denotes, short⟩
      · exact absurd List.mem_cons_self (denotes.not_mem sign)
      · cases same
        exact ⟨denotes, short⟩
  · rename_i some _ unsigned
    rw [row]
    constructor
    · exact fun read => ⟨text.toList, .inl rfl, some, read⟩
    · rintro ⟨other, rfl | same, _, read⟩
      · exact read
      · exact (unsigned other same).elim

end Launcher
end Storybook
