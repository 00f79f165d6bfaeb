/-
**Texts without commands to a terminal.**

A terminal takes controls as commands, and so it does with what follows an escape, up to the end of
the command. The plain form of a text leaves all that out. Blanks and line ends are kept, even
inside a command: behind one of them the text goes on at once, but the command is not at its end,
and the next control leads back to it.

* `Text.plain`: the plain form of a text.
-/

namespace Storybook.Text

/-- What a character belongs to. -/
inductive CommandPart
  /-- The text itself. -/
  | outside
  /-- What follows an escape. -/
  | escape
  /-- What follows an escape and a mark that calls for one more character. -/
  | longEscape
  /-- A row of numbers up to a letter. -/
  | numbers
  /-- A row of numbers up to a letter, in front of a text for a device. -/
  | deviceNumbers
  /-- A text for a device, or a text without a meaning. -/
  | hidden
  /-- The text of a title. -/
  | title
deriving DecidableEq, Repr

/-- How far a text has been read: whether the last character was kept, and the command that the
text is in or was left from. -/
structure CommandState where
  kept : Bool
  part : CommandPart
deriving DecidableEq, Repr

/-- The escape. -/
def escapeMark : Char :=
  '\x1b'

/-- Controls that break off a command. -/
def breaksOff (c : Char) : Bool :=
  c = '\x18' || c = '\x1a'

/-- Line ends and the blanks among the controls. -/
def isLayout (c : Char) : Bool :=
  c = '\t' || c = '\n' || c = '\x0c' || c = '\r'

/-- Whether a character of the text itself is kept. -/
def isKept (c : Char) : Bool :=
  isLayout c || (' ' ≤ c && c ≠ '\x7f')

/-- Whether a byte of the character, other than its first one, has the number that ends a hidden
text. -/
def endsHidden (c : Char) : Bool :=
  (String.utf8EncodeChar c).tail.contains 0x9c

/-- Whether a character is the last one of a command. -/
def isFinal (c : Char) : Bool :=
  '@' ≤ c && c ≤ '~'

namespace CommandPart

/-- What begins behind an escape with a character. -/
def ofLetter (c : Char) : CommandPart :=
  if c = '[' then numbers
  else if c = ']' then title
  else if c = 'P' then deviceNumbers
  else if c = 'X' ∨ c = '^' ∨ c = '_' then hidden
  else if ' ' ≤ c ∧ c ≤ '/' then longEscape
  else if '0' ≤ c ∧ c ≤ '~' then outside
  else escape

/-- What the next character belongs to. -/
def next (part : CommandPart) (c : Char) : CommandPart :=
  if c = escapeMark then escape
  else if breaksOff c then outside
  else match part with
    | outside => outside
    | escape => ofLetter c
    | longEscape => if '0' ≤ c ∧ c ≤ '~' then outside else longEscape
    | numbers => if isFinal c then outside else numbers
    | deviceNumbers => if isFinal c then hidden else deviceNumbers
    | hidden => if endsHidden c then outside else hidden
    | title => if c = '\x07' then outside else title

/-- Whether a character is kept. -/
def keeps : CommandPart → Char → Bool
  | outside, c => isKept c
  | escape, c => isLayout c
  | longEscape, c => isLayout c
  | numbers, c => isLayout c
  | deviceNumbers, _ => false
  | hidden, _ => false
  | title, _ => false

end CommandPart

namespace CommandState

/-- The start of a text. -/
def start : CommandState :=
  ⟨false, .outside⟩

/-- One character. Behind a kept one the text goes on, whatever it was left for. -/
def step (state : CommandState) (c : Char) : CommandState :=
  if state.kept ∧ isKept c then
    ⟨true, if c.toNat < 0x80 then state.part else .outside⟩
  else
    ⟨state.part.keeps c, state.part.next c⟩

end CommandState

/-- The characters of a text that are kept. -/
def plainFrom (state : CommandState) : List Char → List Char
  | [] => []
  | c :: rest =>
    let state := state.step c
    if state.kept then c :: plainFrom state rest else plainFrom state rest

/-- The plain form of a text. -/
def plain (text : String) : String :=
  String.ofList (plainFrom .start text.toList)

end Storybook.Text
