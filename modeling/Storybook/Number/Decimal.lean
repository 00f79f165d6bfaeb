/-
**Decimal texts of binary numbers.**

* `Decimal.shortest`: the fewest digits that are read back as the same double, and of those the
  nearest to it;
* `Decimal.positional`, `Decimal.scientific`: digits written without and with an exponent;
* `Double.text`, `Double.pointText`: a double by its fewest digits;
* `Single.fixed`: a single to a given number of places, ties to even.
-/

import Storybook.Number.Binary

namespace Storybook

/-- A decimal magnitude: `digits * 10 ^ exponent`. -/
structure Decimal where
  digits : Nat
  exponent : Int
deriving DecidableEq, Repr

namespace Decimal

/-- How many decimal digits a natural number is written with. -/
def digitCount (n : Nat) : Nat :=
  (Nat.toDigits 10 n).length

/-- The exponent of the leading decimal digit of a positive quotient. -/
def leading (numerator denominator : Nat) : Int :=
  if denominator ≤ numerator then
    (digitCount (numerator / denominator) : Int) - 1
  else
    -(digitCount ((denominator + numerator - 1) / numerator - 1) : Int)

/-- The bits of the double that a decimal is read as. -/
def readBack (value : Decimal) : Nat :=
  Format.double.nearest (value.digits * powerOfTen value.exponent.toNat)
    (powerOfTen (-value.exponent).toNat)

/-- Of the two decimals with `count` digits beside a quotient, the nearer one that is read back as
`bits`, if there is one. -/
def neighbour? (bits numerator denominator count : Nat) : Option Decimal :=
  let exponent := leading numerator denominator - (count - 1 : Nat)
  let scaled := numerator * powerOfTen (-exponent).toNat
  let unit := denominator * powerOfTen exponent.toNat
  let below : Decimal := ⟨scaled / unit, exponent⟩
  let above : Decimal := ⟨scaled / unit + 1, exponent⟩
  let inOrder := if divNearest scaled unit = below.digits then [below, above] else [above, below]
  inOrder.find? fun candidate => candidate.readBack = bits

/-- The fewest digits that are read back as the double with these bits; seventeen always are. -/
def shortest (bits : Nat) (value : Magnitude) : Decimal :=
  ((List.range 17).findSome? fun fewer =>
    neighbour? bits value.numerator value.denominator (fewer + 1)).getD ⟨0, 0⟩

/-- A decimal point in front of the last `places` digits, with as many leading zeros as that
takes. -/
def withPoint (places : Nat) (digits : List Char) : List Char × List Char :=
  let padded := List.replicate (places + 1 - digits.length) '0' ++ digits
  padded.splitAt (padded.length - places)

/-- Decimal digits written out without an exponent, and without zeros at the end of a fraction. -/
def positional (value : Decimal) : String :=
  let digits := Nat.toDigits 10 value.digits ++ List.replicate value.exponent.toNat '0'
  let (whole, fraction) := withPoint (-value.exponent).toNat digits
  let kept := (fraction.reverse.dropWhile (· = '0')).reverse
  String.ofList (if kept.isEmpty then whole else whole ++ '.' :: kept)

/-- Digits with a point behind the first one, if there are more, and with a signed exponent. -/
def scientific (value : Decimal) : String :=
  let digits := Nat.toDigits 10 value.digits
  let kept := (digits.tail.reverse.dropWhile (· = '0')).reverse
  let significand := digits.take 1 ++ if kept.isEmpty then [] else '.' :: kept
  let exponent : Int := value.exponent + digits.tail.length
  let sign := if 0 ≤ exponent then "+" else "-"
  String.ofList significand ++ s!"e{sign}{exponent.natAbs}"

/-- Whether a decimal is plain enough to be written out: its leading digit has one of the places
from the fifth behind the point to the sixteenth in front of it. -/
def isPlain (value : Decimal) : Bool :=
  let place := value.exponent + (digitCount value.digits : Int) - 1
  decide (-5 ≤ place) && decide (place < 16)

end Decimal

/-- A sign in front of a negative number. -/
def signText (negative : Bool) : String :=
  if negative then "-" else ""

/-- The fewest digits of a finite double. -/
def Double.decimal? (x : Double) : Option Decimal := do
  let value ← Double.magnitude? x
  return if value.significand = 0 then ⟨0, 0⟩ else Decimal.shortest (Double.unsigned x) value

/-- A double whose digits are written in a certain way. -/
def Double.textBy (write : Decimal → String) (x : Double) : String :=
  match Double.decimal? x with
  | some digits => signText (Double.isNegative x) ++ write digits
  | none => if x.isNaN then "NaN" else signText (Double.isNegative x) ++ "inf"

/-- A double by its fewest digits, never with an exponent. -/
def Double.text : Double → String :=
  Double.textBy Decimal.positional

/-- A double by its fewest digits: with at least one place after the point, or with an exponent if
it is very large or very small. -/
def Double.pointText : Double → String :=
  Double.textBy fun digits =>
    if digits.isPlain then
      let text := digits.positional
      if '.' ∈ text.toList then text else text ++ ".0"
    else
      digits.scientific

/-- A single to a fixed number of places after the point; a tie goes to the even neighbour. -/
def Single.fixed (places : Nat) (x : Single) : String :=
  match Single.magnitude? x with
  | some value =>
    let units := divNearest (value.numerator * powerOfTen places) value.denominator
    let (whole, fraction) := Decimal.withPoint places (Nat.toDigits 10 units)
    signText (Single.isNegative x) ++ String.ofList (whole ++ '.' :: fraction)
  | none => if x.isNaN then "NaN" else signText (Single.isNegative x) ++ "inf"

end Storybook
