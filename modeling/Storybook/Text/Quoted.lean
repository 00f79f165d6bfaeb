/-
**Texts in quotes, as reports and error messages show them.**

A quoted text stands between double quotes on one line. A double quote and a backslash are escaped,
the usual controls by a letter, and every other character that shows nothing of its own by its
number.

* `Text.quoted`: the quoted form of a text.
-/

import Storybook.Text.Invisible

namespace Storybook.Text

/-- The characters that stand for one character of a text. -/
def escaped (c : Char) : List Char :=
  if c = '\x00' then ['\\', '0']
  else if c = '\t' then ['\\', 't']
  else if c = '\r' then ['\\', 'r']
  else if c = '\n' then ['\\', 'n']
  else if c = '"' ∨ c = '\\' then ['\\', c]
  else if isInvisible c then ['\\', 'u', '\x7b'] ++ Nat.toDigits 16 c.toNat ++ ['\x7d']
  else [c]

/-- A text in double quotes. -/
def quoted (text : String) : String :=
  String.ofList ('"' :: text.toList.flatMap escaped ++ ['"'])

end Storybook.Text
