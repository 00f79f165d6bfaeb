/-
**Plain values in TOML text.**

A word stands for a truth value, a number or a time. Digits may be grouped by single underscores.
Integers have 64 bits with sign; a number that is too large for its type has no value. A time is
kept as a text in its regular form.

* `Scalar.ofWord?`: the value of a word that is no time;
* `Scalar.moment?`: a time in regular form;
* `Scalar.isDate`: whether a word is a date, which a time of day may follow.
-/

import Storybook.Toml.Token

namespace Storybook.Toml.Scalar

open Storybook.Data

/-! ### Numbers -/

/-- The digits of a group of digits: each underscore stands between two of them. -/
def ungroup (isDigit : Char → Bool) : List Char → Option (List Char)
  | [] => none
  | [c] => if isDigit c then some [c] else none
  | c :: '_' :: rest => if isDigit c then (c :: ·) <$> ungroup isDigit rest else none
  | c :: rest => if isDigit c then (c :: ·) <$> ungroup isDigit rest else none

/-- The number of digits in a base. -/
def ofDigits (base : Nat) (digits : List Char) : Nat :=
  digits.foldl (fun total c => total * base + (Json.hexValue? c).getD 0) 0

/-- Digits below a base. -/
def isDigitOf (base : Nat) (c : Char) : Bool :=
  match Json.hexValue? c with
  | some value => value < base
  | none => false

/-- Decimal digits that do not begin with a superfluous zero. -/
def decimalDigits? (letters : List Char) : Option (List Char) := do
  let digits ← ungroup Char.isDigit letters
  guard (digits.length = 1 ∨ digits.head? ≠ some '0')
  return digits

/-- The integer of 64 bits with a magnitude. -/
def integer? (negative : Bool) (magnitude : Nat) : Option Node := do
  let value : Int := if negative then -(magnitude : Int) else magnitude
  guard (-(powerOfTwo 63 : Int) ≤ value ∧ value < powerOfTwo 63)
  return .number (.whole value)

/-- An integer in another base than ten. -/
def radixInteger? (base : Nat) (letters : List Char) : Option Node := do
  integer? false (ofDigits base (← ungroup (isDigitOf base) letters))

/-- The exponent of a number. -/
def exponent? : List Char → Option Int
  | '-' :: letters => do return -(ofDigits 10 (← ungroup Char.isDigit letters))
  | '+' :: letters => do return ofDigits 10 (← ungroup Char.isDigit letters)
  | letters => do return ofDigits 10 (← ungroup Char.isDigit letters)

/-- The digits behind a point, and the rest. -/
def fraction? : List Char → Option (List Char × List Char)
  | '.' :: letters => do
    let digits ← ungroup Char.isDigit (letters.takeWhile fun c => c ≠ 'e' && c ≠ 'E')
    return (digits, letters.dropWhile fun c => c ≠ 'e' && c ≠ 'E')
  | letters => some ([], letters)

/-- The exponent behind its mark, or zero. -/
def power? : List Char → Option Int
  | [] => some 0
  | c :: letters => if c = 'e' ∨ c = 'E' then exponent? letters else none

/-- A number with a fraction or an exponent. -/
def real? (negative : Bool) (letters : List Char) : Option Node := do
  let inWhole (c : Char) : Bool := c ≠ '.' && c ≠ 'e' && c ≠ 'E'
  let whole ← decimalDigits? (letters.takeWhile inWhole)
  let (fraction, rest) ← fraction? (letters.dropWhile inWhole)
  let exponent := (← power? rest) - fraction.length
  let value := Double.ofDecimal negative (ofDigits 10 (whole ++ fraction)) exponent
  guard value.isFinite
  return .number (.real value)

/-- A number behind its sign. -/
def unsigned? (negative : Bool) : List Char → Option Node
  | ['i', 'n', 'f'] => some (.number (.real (Double.infinity negative)))
  | ['n', 'a', 'n'] => some (.number (.real (0.0 / 0.0)))
  | letters =>
    if letters.any fun c => c = '.' || c = 'e' || c = 'E' then
      real? negative letters
    else do
      integer? negative (ofDigits 10 (← decimalDigits? letters))

/-- A number. Only numbers in base ten have a sign. -/
def number? : List Char → Option Node
  | '+' :: letters => unsigned? false letters
  | '-' :: letters => unsigned? true letters
  | '0' :: 'x' :: letters => radixInteger? 16 letters
  | '0' :: 'o' :: letters => radixInteger? 8 letters
  | '0' :: 'b' :: letters => radixInteger? 2 letters
  | letters => unsigned? false letters

/-! ### Times -/

/-- The days of a month. -/
def daysIn (year month : Nat) : Nat :=
  if month = 2 then
    if year % 4 = 0 ∧ (year % 100 ≠ 0 ∨ year % 400 = 0) then 29 else 28
  else if month ∈ [4, 6, 9, 11] then 30
  else 31

/-- The number of a row of decimal digits. -/
def decimal? (digits : List Char) : Option Nat := do
  guard (digits.all Char.isDigit)
  return ofDigits 10 digits

/-- Two digits with a number of at most `largest`. -/
def twoDigits? (largest : Nat) (tens ones : Char) : Option (List Char) := do
  guard ((← decimal? [tens, ones]) ≤ largest)
  return [tens, ones]

/-- The date at the start of a word, and the rest. -/
def date? : List Char → Option (List Char × List Char)
  | y :: e :: a :: r :: '-' :: m :: n :: '-' :: d :: z :: rest => do
    let year ← decimal? [y, e, a, r]
    let month ← decimal? [m, n]
    let day ← decimal? [d, z]
    guard (1 ≤ month ∧ month ≤ 12 ∧ 1 ≤ day ∧ day ≤ daysIn year month)
    return ([y, e, a, r, '-', m, n, '-', d, z], rest)
  | _ => none

/-- The fraction of a second at the start of a word, to nine places and without zeros at its end;
and the rest. -/
def secondFraction? : List Char → Option (List Char × List Char)
  | '.' :: rest => do
    let digits := rest.takeWhile Char.isDigit
    guard (digits ≠ [])
    let kept := ((digits.take 9).reverse.dropWhile (· = '0')).reverse
    return (if kept.isEmpty then [] else '.' :: kept, rest.dropWhile Char.isDigit)
  | rest => some ([], rest)

/-- The seconds at the start of a word, which are zero if they are left out; and the rest. -/
def seconds? : List Char → Option (List Char × List Char)
  | ':' :: s :: t :: rest => do
    let whole ← twoDigits? 60 s t
    let (fraction, rest) ← secondFraction? rest
    return (':' :: whole ++ fraction, rest)
  | rest => some ([':', '0', '0'], rest)

/-- The time of day at the start of a word, and the rest. -/
def timeOfDay? : List Char → Option (List Char × List Char)
  | h :: i :: ':' :: m :: n :: rest => do
    let hours ← twoDigits? 23 h i
    let minutes ← twoDigits? 59 m n
    let (seconds, rest) ← seconds? rest
    return (hours ++ ':' :: minutes ++ seconds, rest)
  | _ => none

/-- The offset of a time zone, or none. -/
def offset? : List Char → Option (List Char)
  | [] => some []
  | ['Z'] => some ['Z']
  | ['z'] => some ['Z']
  | [sign, h, i, ':', m, n] => do
    guard (sign = '+' ∨ sign = '-')
    let hours ← twoDigits? 23 h i
    let minutes ← twoDigits? 59 m n
    let text := hours ++ ':' :: minutes
    return (if text = ['0', '0', ':', '0', '0'] then '+' else sign) :: text
  | _ => none

/-- The time of day behind a date, or none. -/
def behindDate? : List Char → Option (List Char)
  | [] => some []
  | mark :: rest => do
    guard (mark = 'T' ∨ mark = 't' ∨ mark = ' ')
    let (time, rest) ← timeOfDay? rest
    return 'T' :: time ++ (← offset? rest)

/-- A date, a time of day or both, in regular form. -/
def moment? (letters : List Char) : Option String :=
  match date? letters with
  | some (date, rest) => (behindDate? rest).map fun time => String.ofList (date ++ time)
  | none =>
    match timeOfDay? letters with
    | some (time, []) => some (String.ofList time)
    | _ => none

/-- Whether a word is a date, so that a time of day may follow behind a space. -/
def isDate (letters : List Char) : Bool :=
  match date? letters with
  | some (_, []) => true
  | _ => false

/-! ### Words -/

/-- The value of a word that is no time. -/
def ofWord? (letters : List Char) : Option Node :=
  if letters = "true".toList then some (.boolean true)
  else if letters = "false".toList then some (.boolean false)
  else number? letters

end Storybook.Toml.Scalar
