/-
**Binary floating formats in exact arithmetic.**

A finite number of a format is a significand times a power of two. Reading and narrowing are one
rule, stated once: of all numbers of the format take the nearest, and of two equally near ones the
one with the even significand.

* `divNearest`: a quotient rounded to the nearest natural number, ties to even;
* `Format.nearest`: the bits of the number nearest to a quotient of natural numbers;
* `Format.magnitude?`: the significand and exponent that a bit pattern stands for;
* `Single.narrow`, `Single.widen`: between double and single precision;
* `Double.ofDecimal`: the double nearest to a decimal.
-/

import Storybook.Number.Power

namespace Storybook

/-- A number of single precision: every measure of the stage is one. -/
abbrev Single := Float32

/-- A number of double precision: what a written number with a fraction is first read as. -/
abbrev Double := Float

/-- A quotient rounded to the nearest natural number; a tie goes to the even neighbour. -/
def divNearest (numerator denominator : Nat) : Nat :=
  let quotient := numerator / denominator
  let remainder := numerator % denominator
  if denominator < 2 * remainder ∨ (2 * remainder = denominator ∧ quotient % 2 = 1) then
    quotient + 1
  else
    quotient

/-- A finite magnitude: `significand * 2 ^ exponent`. -/
structure Magnitude where
  significand : Nat
  exponent : Int
deriving DecidableEq, Repr

namespace Magnitude

/-- The numerator of the magnitude as a quotient of natural numbers. -/
def numerator (value : Magnitude) : Nat :=
  value.significand * powerOfTwo value.exponent.toNat

/-- The denominator of the magnitude as a quotient of natural numbers. -/
def denominator (value : Magnitude) : Nat :=
  powerOfTwo (-value.exponent).toNat

end Magnitude

/-- A binary floating format: the length of its significands and of its exponent field in bits. -/
structure Format where
  precision : Nat
  exponentBits : Nat
deriving DecidableEq, Repr

namespace Format

/-- The format of 32 bits. -/
def single : Format := ⟨24, 8⟩

/-- The format of 64 bits. -/
def double : Format := ⟨53, 11⟩

/-- The exponent of the smallest positive number. -/
def lowest (format : Format) : Int :=
  3 - powerOfTwo (format.exponentBits - 1) - format.precision

/-- The number of bit patterns with one exponent. -/
def binade (format : Format) : Nat :=
  powerOfTwo (format.precision - 1)

/-- The bit pattern of infinity. -/
def infinity (format : Format) : Nat :=
  (powerOfTwo format.exponentBits - 1) * format.binade

/-- The bit pattern of the sign alone. -/
def signBit (format : Format) : Nat :=
  powerOfTwo format.exponentBits * format.binade

/-- What an unsigned bit pattern stands for; `none` for infinity and for what is no number. -/
def magnitude? (format : Format) (bits : Nat) : Option Magnitude :=
  let exponent := bits / format.binade
  let fraction := bits % format.binade
  if exponent = 0 then
    some ⟨fraction, format.lowest⟩
  else if exponent < powerOfTwo format.exponentBits - 1 then
    some ⟨format.binade + fraction, format.lowest + (exponent - 1 : Nat)⟩
  else
    none

/-- The exponent at which a positive quotient has a significand of full length, but no exponent
below the lowest one. -/
def exponentFor (format : Format) (numerator denominator : Nat) : Int :=
  let guess : Int :=
    (Nat.log2 numerator : Int) - Nat.log2 denominator - (format.precision - 1 : Nat)
  let scaled := numerator * powerOfTwo (-guess).toNat
  let unit := denominator * powerOfTwo guess.toNat
  let exponent := if scaled < format.binade * unit then guess - 1 else guess
  max exponent format.lowest

/-- The unsigned bit pattern of the number nearest to a quotient. A significand that is rounded up
to the next binade carries into the exponent field, and what is too large becomes infinity. -/
def nearest (format : Format) (numerator denominator : Nat) : Nat :=
  if numerator = 0 then
    0
  else
    let exponent := format.exponentFor numerator denominator
    let significand :=
      divNearest (numerator * powerOfTwo (-exponent).toNat)
        (denominator * powerOfTwo exponent.toNat)
    min ((exponent - format.lowest).toNat * format.binade + significand) format.infinity

/-- Adds the sign to an unsigned bit pattern. -/
def signed (format : Format) (negative : Bool) (bits : Nat) : Nat :=
  if negative then format.signBit + bits else bits

end Format

namespace Double

/-- Whether the sign bit is set. -/
def isNegative (x : Double) : Bool :=
  Format.double.signBit ≤ x.toBits.toNat

/-- The bit pattern without the sign. -/
def unsigned (x : Double) : Nat :=
  x.toBits.toNat % Format.double.signBit

/-- The significand and exponent of a finite double. -/
def magnitude? (x : Double) : Option Magnitude :=
  Format.double.magnitude? (unsigned x)

/-- The double with an unsigned bit pattern and a sign. -/
def ofSigned (negative : Bool) (bits : Nat) : Double :=
  Float.ofBits (.ofNat (Format.double.signed negative bits))

/-- The double nearest to a signed quotient. -/
def ofQuotient (negative : Bool) (numerator denominator : Nat) : Double :=
  ofSigned negative (Format.double.nearest numerator denominator)

/-- The double nearest to an integer. -/
def ofInt (n : Int) : Double :=
  ofQuotient (n < 0) n.natAbs 1

/-- Infinity with a sign. -/
def infinity (negative : Bool) : Double :=
  ofSigned negative Format.double.infinity

/-- The double nearest to `digits * 10 ^ exponent`. Exponents far outside the range of the format
are settled without computing the power. -/
def ofDecimal (negative : Bool) (digits : Nat) (exponent : Int) : Double :=
  if digits = 0 then
    ofQuotient negative 0 1
  else if 400 < exponent then
    infinity negative
  else if exponent + (Nat.log2 digits : Int) < -1200 then
    ofQuotient negative 0 1
  else
    ofQuotient negative (digits * powerOfTen exponent.toNat) (powerOfTen (-exponent).toNat)

end Double

namespace Single

/-- Whether the sign bit is set. -/
def isNegative (x : Single) : Bool :=
  Format.single.signBit ≤ x.toBits.toNat

/-- The significand and exponent of a finite single. -/
def magnitude? (x : Single) : Option Magnitude :=
  Format.single.magnitude? (x.toBits.toNat % Format.single.signBit)

/-- The single with an unsigned bit pattern and a sign. -/
def ofSigned (negative : Bool) (bits : Nat) : Single :=
  Float32.ofBits (.ofNat (Format.single.signed negative bits))

/-- The single nearest to a signed quotient. -/
def ofQuotient (negative : Bool) (numerator denominator : Nat) : Single :=
  ofSigned negative (Format.single.nearest numerator denominator)

/-- The single nearest to an integer. -/
def ofInt (n : Int) : Single :=
  ofQuotient (n < 0) n.natAbs 1

/-- The single nearest to a double. Infinities stay, and what is no number stays none. -/
def narrow (x : Double) : Single :=
  match Double.magnitude? x with
  | some value => ofQuotient (Double.isNegative x) value.numerator value.denominator
  | none =>
    if x.isNaN then
      Float32.ofBits 0x7fc00000
    else
      ofSigned (Double.isNegative x) Format.single.infinity

/-- The double of the same value as a single. -/
def widen (x : Single) : Double :=
  match magnitude? x with
  | some value => Double.ofQuotient (isNegative x) value.numerator value.denominator
  | none =>
    if x.isNaN then
      Float.ofBits 0x7ff8000000000000
    else
      Double.infinity (isNegative x)

end Single

end Storybook
