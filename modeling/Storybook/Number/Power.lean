/-
**Powers.**

Numbers are read and written in base two and in base ten, and words of a machine hold so many bits.

* `powerOfTwo`, `powerOfTen`: the powers of the two bases.
-/

namespace Storybook

/-- A power of two. -/
def powerOfTwo (exponent : Nat) : Nat :=
  Nat.pow 2 exponent

/-- A power of ten. -/
def powerOfTen (exponent : Nat) : Nat :=
  Nat.pow 10 exponent

end Storybook
