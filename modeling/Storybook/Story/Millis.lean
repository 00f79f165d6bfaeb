/-
**Milliseconds in writing.**

A number of milliseconds is a natural number, or a number with a fraction that is not negative: that
one is rounded, a half away from zero, and what exceeds 64 bits becomes the largest number of 64
bits.

* `Millis.ofDouble?`: the rounded number;
* `Millis.decode`: milliseconds in a document, where they may be left out.
-/

import Storybook.Data.Decode

namespace Storybook.Story.Millis

open Storybook.Data

/-- The largest number of milliseconds. -/
def largest : Nat :=
  powerOfTwo 64 - 1

/-- A magnitude rounded to a natural number, a half upwards. -/
def round (value : Magnitude) : Nat :=
  (2 * value.numerator + value.denominator) / (2 * value.denominator)

/-- The milliseconds of a double that is finite and not negative. -/
def ofDouble? (x : Double) : Option Nat :=
  match Double.magnitude? x with
  | some value => if 0 ≤ x then some (min (round value) largest) else none
  | none => none

/-- Milliseconds in a document, or `null`. -/
def decode : Decoder (Option Nat) := fun node => do
  match ← node.settle with
  | .null => return none
  | .number (.whole value) =>
    if 0 ≤ value then return some value.toNat else throw (.badMillis (Double.ofInt value))
  | .number (.real value) =>
    match ofDouble? value with
    | some millis => return some millis
    | none => throw (.badMillis value)
  | _ => throw (.noForm "RawMillis")

end Storybook.Story.Millis
