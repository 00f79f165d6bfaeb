/-
**What may be wrong with a pattern.**

A fault has a cause and a span of the pattern, and sometimes another span that the first one goes
with. The message on a fault shows the lines of the pattern, and marks the spans below them.

* `Place`, `Span`: places in a text, and what is between two of them;
* `Cause.wording`: the wording of a cause;
* `Fault.message`: the message on a fault.
-/

namespace Storybook.Pattern

/-! ### Places -/

/-- A place between the characters of a text. Lines and columns are counted from one. -/
structure Place where
  line : Nat
  column : Nat
deriving DecidableEq, Repr

namespace Place

/-- The start of a text. -/
def first : Place :=
  ⟨1, 1⟩

/-- The place behind a character. -/
def behind (place : Place) (c : Char) : Place :=
  if c = '\n' then ⟨place.line + 1, 1⟩ else ⟨place.line, place.column + 1⟩

/-- Whether a place is in front of another one. -/
def isBefore (place other : Place) : Bool :=
  place.line < other.line || (place.line = other.line && place.column < other.column)

end Place

/-- A part of a text. -/
structure Span where
  start : Place
  stop : Place
deriving DecidableEq, Repr

namespace Span

/-- The span without characters at a place. -/
def point (place : Place) : Span :=
  ⟨place, place⟩

/-- Whether a span comes first of two, or may do so. -/
def isUpTo (span other : Span) : Bool :=
  span.start.isBefore other.start ||
    (span.start = other.start && !other.stop.isBefore span.stop)

/-- Whether a span stays in its line. -/
def isInLine (span : Span) : Bool :=
  span.start.line = span.stop.line

end Span

/-! ### Causes -/

/-- Why a text is no pattern, or none that can be used. -/
inductive Cause where
  | escapeInSet
  | rangeOrder
  | rangeEnd
  | setUnclosed
  | decimalTooLarge
  | codeEmpty
  | codeNoCharacter
  | codeDigit
  | escapeUnfinished
  | escapeUnknown
  | flagNothingNegated
  | flagTwice
  | flagNegationTwice
  | flagUnfinished
  | flagUnknown
  | nameTwice
  | nameEmpty
  | nameCharacter
  | nameUnclosed
  | groupUnclosed
  | groupUnopened
  | tooDeep (limit : Nat)
  | countOrder
  | countEmpty
  | countUnclosed
  | nothingRepeated
  | wordEdgeUnclosed
  | wordEdgeUnknown
  | wordEdgeUnfinished
  | propertyName
  | backreference
  | lookAround
  | unicodeNotAllowed
  | invalidUtf8
  | propertyUnknown
  | propertyValueUnknown
  | shortSetUnknown
  | caseUnknown
deriving DecidableEq, Repr

/-- The wording of a cause. -/
def Cause.wording : Cause → String
  | escapeInSet => "invalid escape sequence found in character class"
  | rangeOrder => "invalid character class range, the start must be <= the end"
  | rangeEnd => "invalid range boundary, must be a literal"
  | setUnclosed => "unclosed character class"
  | decimalTooLarge => "decimal literal invalid"
  | codeEmpty => "hexadecimal literal empty"
  | codeNoCharacter => "hexadecimal literal is not a Unicode scalar value"
  | codeDigit => "invalid hexadecimal digit"
  | escapeUnfinished => "incomplete escape sequence, reached end of pattern prematurely"
  | escapeUnknown => "unrecognized escape sequence"
  | flagNothingNegated => "dangling flag negation operator"
  | flagTwice => "duplicate flag"
  | flagNegationTwice => "flag negation operator repeated"
  | flagUnfinished => "expected flag but got end of regex"
  | flagUnknown => "unrecognized flag"
  | nameTwice => "duplicate capture group name"
  | nameEmpty => "empty capture group name"
  | nameCharacter => "invalid capture group character"
  | nameUnclosed => "unclosed capture group name"
  | groupUnclosed => "unclosed group"
  | groupUnopened => "unopened group"
  | tooDeep limit => s!"exceed the maximum number of nested parentheses/brackets ({limit})"
  | countOrder => "invalid repetition count range, the start must be <= the end"
  | countEmpty => "repetition quantifier expects a valid decimal"
  | countUnclosed => "unclosed counted repetition"
  | nothingRepeated => "repetition operator missing expression"
  | wordEdgeUnclosed =>
    "special word boundary assertion is either unclosed or contains an invalid character"
  | wordEdgeUnknown =>
    "unrecognized special word boundary assertion, valid choices are: " ++
      "start, end, start-half or end-half"
  | wordEdgeUnfinished =>
    "found either the beginning of a special word boundary or a bounded repetition on a \\b " ++
      "with an opening brace, but no closing brace"
  | propertyName => "invalid Unicode character class"
  | backreference => "backreferences are not supported"
  | lookAround => "look-around, including look-ahead and look-behind, is not supported"
  | unicodeNotAllowed => "Unicode not allowed here"
  | invalidUtf8 => "pattern can match invalid UTF-8"
  | propertyUnknown => "Unicode property not found"
  | propertyValueUnknown => "Unicode property value not found"
  | shortSetUnknown =>
    "Unicode-aware Perl class not found (make sure the unicode-perl feature is enabled)"
  | caseUnknown =>
    "Unicode-aware case insensitivity matching is not available " ++
      "(make sure the unicode-case feature is enabled)"

/-! ### Messages -/

/-- What is wrong with a pattern, and where. -/
structure Fault where
  cause : Cause
  span : Span
  /-- What the span goes with. -/
  other : Option Span
deriving DecidableEq, Repr

/-- A text so many times. -/
def copies (count : Nat) (text : String) : String :=
  String.join (List.replicate count text)

/-- A line without the first part of its line end. -/
def withoutReturn (line : String) : String :=
  if line.endsWith "\r" then String.ofList line.toList.dropLast else line

/-- The lines of a text. The last one has no line end, and does not count if it is empty. -/
def linesOf (text : String) : List String :=
  let parts := text.splitOn "\n"
  let last := parts.getLast?.getD ""
  parts.dropLast.map withoutReturn ++ if last.isEmpty then [] else [last]

/-- The marks below a line that some spans of it, in order, have from a column on. -/
def marksFrom (column : Nat) : List Span → String
  | [] => ""
  | span :: rest =>
    let blanks := span.start.column - column
    let marks := max 1 (span.stop.column - span.start.column)
    copies blanks " " ++ copies marks "^" ++ marksFrom (column + blanks + marks) rest

namespace Fault

/-- The spans of a fault in order. -/
def spans (fault : Fault) : List Span :=
  (fault.span :: fault.other.toList).mergeSort Span.isUpTo

/-- A line of the pattern with the marks below it. A margin is in front of both. -/
def notedLine (fault : Fault) (margin : String) (number : Nat) (line : String) : List String :=
  match fault.spans.filter fun span => span.isInLine && span.start.line = number with
  | [] => [margin ++ line]
  | spans => [margin ++ line, copies margin.length " " ++ marksFrom 1 spans]

/-- The number of a line in front of it. -/
def numberMargin (width number : Nat) : String :=
  copies (width - (toString number).length) " " ++ toString number ++ ": "

/-- Where a span of several lines is. -/
def spanNote (span : Span) : String :=
  s!"on line {span.start.line} (column {span.start.column}) " ++
    s!"through line {span.stop.line} (column {span.stop.column - 1})"

/-- The lines on the place of a fault in a pattern of one line. -/
def shortPlace (fault : Fault) (pattern : String) : List String :=
  fault.notedLine "    " 1 pattern

/-- The lines on the place of a fault in a pattern of several lines. -/
def longPlace (fault : Fault) (pattern : String) : List String :=
  let lines := linesOf pattern
  let count := if pattern.endsWith "\n" then lines.length + 1 else lines.length
  let margin (number : Nat) : String :=
    if count ≤ 1 then "    " else numberMargin (toString count).length number
  let divider := copies 79 "~"
  let noted := lines.zipIdx.flatMap fun (line, index) =>
    fault.notedLine (margin (index + 1)) (index + 1) line
  divider :: noted ++ divider :: (fault.spans.filter (!·.isInLine)).map spanNote

/-- The message on a fault of a pattern. -/
def message (fault : Fault) (pattern : String) : String :=
  let place :=
    if pattern.contains '\n' then fault.longPlace pattern else fault.shortPlace pattern
  String.intercalate "\n" ("regex parse error:" :: place ++ ["error: " ++ fault.cause.wording])

end Fault

end Storybook.Pattern
