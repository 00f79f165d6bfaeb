/-
**The size of a picture.**

* `ImageSize`: the size in pixels;
* `bigEndian`: the number that a row of bytes stands for.
-/

namespace Storybook

/-- The size of a picture in pixels. -/
structure ImageSize where
  width : Nat
  height : Nat
deriving DecidableEq, Repr

/-- The number of a row of bytes, the most significant one first. -/
def bigEndian (bytes : List UInt8) : Nat :=
  bytes.foldl (fun total byte => total * 256 + byte.toNat) 0

end Storybook
