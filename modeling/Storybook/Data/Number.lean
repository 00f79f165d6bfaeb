/-
**Written numbers.**

A number without fraction and exponent that fits 64 bits, with or without sign, is kept as an
integer; every other number is kept as a double.

* `Number.single`, `Number.double`: the number at a fixed precision.
-/

import Storybook.Number.Decimal

namespace Storybook.Data

/-- A number as it is written in a document. -/
inductive Number
  | whole (value : Int)
  | real (value : Double)
deriving DecidableEq, Repr

namespace Number

/-- The number at single precision: an integer is rounded once, a double is narrowed. -/
def single : Number → Single
  | whole value => Single.ofInt value
  | real value => Single.narrow value

/-- The number at double precision. -/
def double : Number → Double
  | whole value => Double.ofInt value
  | real value => value

/-- A single as a written number. -/
def ofSingle (x : Single) : Number :=
  real (Single.widen x)

end Number

end Storybook.Data
