/-
**Numbers in JSON text.**

The digits of a number are collected into a significand of 64 bits. Digits that do not fit it any
more only count for their place, and the significand is scaled by a power of ten in double
precision, in one step where the power is in range.

* `Numeral.value`: the number that a numeral stands for;
* `Numeral.scan`: a numeral at the start of a text.
-/

import Storybook.Data.Fault

namespace Storybook.Json

open Storybook.Data

/-- The parts of a number as it is written. -/
structure Numeral where
  negative : Bool
  whole : List Char
  /-- The digits after the point, if there is one. -/
  fraction : Option (List Char)
  /-- The sign and the digits of the exponent, if there is one. -/
  exponent : Option (Bool × List Char)
deriving DecidableEq, Repr

namespace Numeral

/-- The value of a decimal digit. -/
def digitValue (c : Char) : Nat :=
  c.toNat - '0'.toNat

/-- The natural number of a row of digits as far as it stays within `limit`, and the digits that
are left over. -/
def accumulate (limit : Nat) : Nat → List Char → Nat × List Char
  | total, [] => (total, [])
  | total, c :: rest =>
    if total * 10 + digitValue c ≤ limit then
      accumulate limit (total * 10 + digitValue c) rest
    else
      (total, c :: rest)

/-- The largest significand. -/
def largest : Nat :=
  powerOfTwo 64 - 1

/-- The largest exponent that is counted. -/
def largestExponent : Nat :=
  powerOfTwo 31 - 1

/-- A double times a power of ten. What grows beyond all doubles is out of range. -/
def scale (x : Double) (exponent : Int) : Except Fault Double :=
  if exponent.natAbs ≤ 308 then
    let power := Double.ofDecimal false 1 exponent.natAbs
    if 0 ≤ exponent then
      if (x * power).isInf then throw .numberRange else return x * power
    else
      return x / power
  else if x == 0 then
    return x
  else if h : 0 ≤ exponent then
    throw .numberRange
  else
    scale (x / Double.ofDecimal false 1 308) (exponent + 308)
termination_by exponent.natAbs
decreasing_by omega

/-- The double of a significand and an exponent. -/
def real (negative : Bool) (significand : Nat) (exponent : Int) : Except Fault Number := do
  let magnitude ← scale (Double.ofInt significand) exponent
  return .real (if negative then -magnitude else magnitude)

/-- The number of a numeral. Without fraction and exponent it is an integer if it fits 64 bits; a
negative zero is a double. -/
def value (numeral : Numeral) : Except Fault Number := do
  let (head, beyond) := accumulate largest 0 numeral.whole
  let (significand, places) :=
    match numeral.fraction with
    | none => (head, 0)
    | some digits =>
      let (total, unused) := accumulate largest head digits
      (total, digits.length - unused.length)
  let exponent : Int := (beyond.length : Int) - places
  match numeral.exponent with
  | none =>
    if numeral.fraction.isSome ∨ beyond ≠ [] then
      real numeral.negative significand exponent
    else if ¬ numeral.negative then
      return .whole significand
    else if 0 < significand ∧ significand ≤ powerOfTwo 63 then
      return .whole (-(significand : Int))
    else
      real true significand 0
  | some (below, digits) =>
    let (size, unused) := accumulate largestExponent 0 digits
    if unused ≠ [] then
      if significand ≠ 0 ∧ ¬ below then
        throw .numberRange
      else
        return .real (if numeral.negative then -0.0 else 0.0)
    else
      let bound : Int := largestExponent
      let total := if below then max (exponent - size) (-bound - 1) else min (exponent + size) bound
      real numeral.negative significand total

/-- A fault in the digits of a number: at the end of the text the reading of a value notes that a
value is cut off, while passing over the value notes a bad number. -/
def malformed (rest : List Char) : Fault × Fault :=
  if rest.isEmpty then (.endInValue, .badNumber) else (.badNumber, .badNumber)

/-- A fraction behind the point, or none. -/
def scanFraction : List Char → Except (Fault × Fault) (Option (List Char) × List Char)
  | '.' :: rest =>
    let digits := rest.takeWhile Char.isDigit
    let rest := rest.dropWhile Char.isDigit
    if digits.isEmpty then throw (malformed rest) else return (some digits, rest)
  | rest => return (none, rest)

/-- The digits of an exponent behind its sign. -/
def scanPower (below : Bool) (rest : List Char) :
    Except (Fault × Fault) (Option (Bool × List Char) × List Char) :=
  let digits := rest.takeWhile Char.isDigit
  let rest := rest.dropWhile Char.isDigit
  if digits.isEmpty then throw (malformed rest) else return (some (below, digits), rest)

/-- An exponent, or none. -/
def scanExponent : List Char → Except (Fault × Fault) (Option (Bool × List Char) × List Char)
  | 'e' :: '+' :: rest => scanPower false rest
  | 'e' :: '-' :: rest => scanPower true rest
  | 'e' :: rest => scanPower false rest
  | 'E' :: '+' :: rest => scanPower false rest
  | 'E' :: '-' :: rest => scanPower true rest
  | 'E' :: rest => scanPower false rest
  | rest => return (none, rest)

/-- The numeral at the start of a text that stands behind the sign, and the rest of the text; or
the fault when it is read and the fault when it is passed over. -/
def scan (negative : Bool) (source : List Char) : Except (Fault × Fault) (Numeral × List Char) := do
  let whole := source.takeWhile Char.isDigit
  if whole.isEmpty then throw (malformed source)
  if whole.head? = some '0' ∧ 1 < whole.length then throw (.badNumber, .badNumber)
  let (fraction, rest) ← scanFraction (source.dropWhile Char.isDigit)
  let (exponent, rest) ← scanExponent rest
  return (⟨negative, whole, fraction, exponent⟩, rest)

theorem dropDigits_length (source : List Char) :
    (source.dropWhile Char.isDigit).length ≤ source.length :=
  (List.dropWhile_sublist _).length_le

theorem scanFraction_length {source rest : List Char} {fraction : Option (List Char)}
    (found : scanFraction source = .ok (fraction, rest)) : rest.length ≤ source.length := by
  unfold scanFraction at found
  split at found
  · rename_i digits
    have shorter := dropDigits_length digits
    simp only [] at found
    split at found <;> simp_all [pure, Except.pure, throw, throwThe, MonadExceptOf.throw]
    omega
  · simp_all [pure, Except.pure]

theorem scanPower_length {below : Bool} {source rest : List Char}
    {exponent : Option (Bool × List Char)} (found : scanPower below source = .ok (exponent, rest)) :
    rest.length ≤ source.length := by
  have shorter := dropDigits_length source
  unfold scanPower at found
  simp only [] at found
  split at found <;> simp_all [pure, Except.pure, throw, throwThe, MonadExceptOf.throw]

theorem scanExponent_length {source rest : List Char} {exponent : Option (Bool × List Char)}
    (found : scanExponent source = .ok (exponent, rest)) : rest.length ≤ source.length := by
  unfold scanExponent at found
  split at found
  case h_7 => simp_all [pure, Except.pure]
  all_goals
    have shorter := scanPower_length found
    simp only [List.length_cons]
    omega

theorem scan_length {negative : Bool} {source rest : List Char} {numeral : Numeral}
    (found : scan negative source = .ok (numeral, rest)) :
    rest.length ≤ (source.dropWhile Char.isDigit).length := by
  unfold scan at found
  simp only [bind, Except.bind, pure, Except.pure] at found
  repeat' split at found
  all_goals try contradiction
  rename_i fractionFound _ _ exponentFound
  simp only [Except.ok.injEq, Prod.mk.injEq] at found
  have first := scanFraction_length fractionFound
  have second := scanExponent_length exponentFound
  rw [← found.2]
  omega

end Numeral

end Storybook.Json
