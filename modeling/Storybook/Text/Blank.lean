/-
**Blanks.**

* `Text.isBlank`: the characters that only make room between other ones.
-/

namespace Storybook.Text

/-- Whether a character is a blank or a line end in any script. -/
def isBlank (c : Char) : Bool :=
  c.isWhitespace || c.toNat ∈ [0x0b, 0x0c, 0x85, 0xa0, 0x1680, 0x2028, 0x2029, 0x202f, 0x205f,
    0x3000] || (0x2000 ≤ c.toNat && c.toNat ≤ 0x200a)

end Storybook.Text
