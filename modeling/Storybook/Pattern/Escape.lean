/-
**Escapes.**

A backslash gives the next characters another meaning: a mark stands for itself, and a letter for a
character without a letter of its own, for a set of characters or for a place.

* `readEscape`: what an escape stands for.
-/

import Storybook.Pattern.Source

namespace Storybook.Pattern

open Reader

/-! ### Characters -/

/-- Whether a character has a meaning of its own in some part of a pattern. -/
def isMark (c : Char) : Bool :=
  c ∈ ['\\', '.', '+', '*', '?', '(', ')', '|', '[', ']', '\x7b', '\x7d', '^', '$', '#', '&', '-',
    '~']

/-- Whether a character stands for itself behind a backslash. -/
def standsForItself (c : Char) : Bool :=
  isMark c || (c.toNat < 0x80 && !c.isAlphanum && c ≠ '<' && c ≠ '>')

/-- The character that a letter stands for. -/
def control? : Char → Option Char
  | 'a' => some '\x07'
  | 'f' => some '\x0c'
  | 't' => some '\t'
  | 'n' => some '\n'
  | 'r' => some '\r'
  | 'v' => some '\x0b'
  | _ => none

/-- Whether a character is a hexadecimal digit. -/
def isHexDigit (c : Char) : Bool :=
  c.isDigit || ('a' ≤ c && c ≤ 'f') || ('A' ≤ c && c ≤ 'F')

/-- The value of a hexadecimal digit. -/
def hexValue (c : Char) : Nat :=
  if c.isDigit then c.toNat - '0'.toNat else c.toLower.toNat - 'a'.toNat + 10

/-- The character with a number in hexadecimal digits. -/
def ofHex? (digits : List Char) : Option Char :=
  let code := digits.foldl (fun total digit => total * 16 + hexValue digit) 0
  if code.isValidChar then some (Char.ofNat code) else none

/-- So many hexadecimal digits, without a blank behind the last one. -/
def readDigits : Nat → Reader (List Char)
  | 0 => return []
  | count + 1 => do
    match ← rest with
    | [] => fail .escapeUnfinished (← pointSpan)
    | c :: _ =>
      if isHexDigit c then
        advanceLoose
        return c :: (← readDigits count)
      else
        fail .codeDigit (← nextSpan)

/-- How many digits follow a letter. -/
def digitCount : Char → Nat
  | 'x' => 2
  | 'u' => 4
  | _ => 8

/-- The character with a number behind a letter. -/
def readFixedCode (start : Place) (letter : Char) : Reader Tree := do
  let digitStart ← place
  let digits ← readDigits (digitCount letter)
  match ofHex? digits with
  | some c => return .literal ⟨c, letter = 'x', ← spanFrom start⟩
  | none => fail .codeNoCharacter (← spanFrom digitStart)

/-- The character with a number in curly brackets. -/
def readBracedCode (start : Place) : Reader Tree := do
  let opening ← place
  let digitStart := (← nextSpan).stop
  advanceLoose
  let digits := (← spacedWhile isHexDigit).map Prod.fst
  match ← rest with
  | [] => fail .escapeUnfinished (← spanFrom opening)
  | '\x7d' :: _ =>
    let digitSpan ← spanFrom digitStart
    advanceLoose
    if digits.isEmpty then
      fail .codeEmpty (← spanFrom opening)
    match ofHex? digits with
    | some c => return .literal ⟨c, false, ← spanFrom start⟩
    | none => fail .codeNoCharacter digitSpan
  | _ => fail .codeDigit (← nextSpan)

/-- The character with a number. -/
def readCode (start : Place) (letter : Char) : Reader Tree := do
  advanceLoose
  match ← rest with
  | [] => fail .escapeUnfinished (← pointSpan)
  | '\x7b' :: _ => readBracedCode start
  | _ => readFixedCode start letter

/-! ### Sets -/

/-- The name of a property without its value. -/
def propertyName? (name : List Char) : Option String :=
  if name.contains ':' || name.contains '=' then none else some (String.ofList name)

/-- A property of characters. -/
def readProperty (start : Place) : Reader Tree := do
  advanceLoose
  match ← rest with
  | [] => fail .escapeUnfinished (← pointSpan)
  | '\x7b' :: _ =>
    advanceLoose
    let name := (← spacedWhile (· ≠ '\x7d')).map Prod.fst
    if ← isAtEnd then
      fail .escapeUnfinished (← pointSpan)
    advance 1
    return .property (propertyName? name) (← spanFrom start)
  | '\\' :: _ => fail .propertyName (← nextSpan)
  | c :: _ =>
    advanceLoose
    return .property (some (String.ofList [c])) (← spanFrom start)

/-- The set of a letter, and whether all other characters are meant. -/
def shortSet? : Char → Option (ShortSet × Bool)
  | 'd' => some (.digit, false)
  | 'D' => some (.digit, true)
  | 's' => some (.space, false)
  | 'S' => some (.space, true)
  | 'w' => some (.word, false)
  | 'W' => some (.word, true)
  | _ => none

/-! ### Places -/

/-- The place with a name. -/
def namedAnchor? : String → Option Anchor
  | "start" => some .wordStart
  | "end" => some .wordEnd
  | "start-half" => some .wordStartHalf
  | "end-half" => some .wordEndHalf
  | _ => none

/-- Whether a character may occur in the name of a place. -/
def isAnchorLetter (c : Char) : Bool :=
  c.isAlpha || c = '-'

/-- The place that a name in curly brackets gives, if there is one. Other brackets stay. -/
def readNamedAnchor? (start : Place) : Reader (Option Anchor) := do
  let source ← get
  advanceLoose
  let nameStart ← place
  match ← rest with
  | [] => fail .wordEdgeUnfinished (← spanFrom start)
  | c :: _ =>
    if isAnchorLetter c then
      let name := String.ofList ((← spacedWhile isAnchorLetter).map Prod.fst)
      match ← rest with
      | '\x7d' :: _ =>
        let nameSpan ← spanFrom nameStart
        advance 1
        match namedAnchor? name with
        | some anchor => return some anchor
        | none => fail .wordEdgeUnknown nameSpan
      | _ => fail .wordEdgeUnclosed (← spanFrom source.place)
    else
      set source
      return none

/-- The place that a letter stands for. -/
def anchor? : Char → Option Anchor
  | 'A' => some .textStart
  | 'z' => some .textEnd
  | 'B' => some .noWordEdge
  | '<' => some .wordStart
  | '>' => some .wordEnd
  | _ => none

/-! ### All escapes -/

/-- The edge of a word, or the part of one that is named. -/
def readWordEdge (start : Place) : Reader Tree := do
  if ← comes "\x7b" then
    match ← readNamedAnchor? start with
    | some anchor => return .anchor anchor (← spanFrom start)
    | none => return .anchor .wordEdge (← spanFrom start)
  else
    return .anchor .wordEdge (← spanFrom start)

/-- What an escape of one character stands for. -/
def readLetter (start : Place) (c : Char) : Reader Tree := do
  advance 1
  let span ← spanFrom start
  if standsForItself c then
    return .literal ⟨c, false, span⟩
  else if let some control := control? c then
    return .literal ⟨control, false, span⟩
  else if let some (letters, negated) := shortSet? c then
    return .short letters negated span
  else if let some anchor := anchor? c then
    return .anchor anchor span
  else if c = 'b' then
    readWordEdge start
  else
    fail .escapeUnknown span

/-- What an escape stands for. -/
def readEscape : Reader Tree := do
  let start ← place
  advance 1
  match ← rest with
  | [] => fail .escapeUnfinished (← spanFrom start)
  | c :: _ =>
    if c.isDigit then
      fail .backreference ⟨start, (← nextSpan).stop⟩
    else if c ∈ ['x', 'u', 'U'] then
      readCode start c
    else if c ∈ ['p', 'P'] then
      readProperty start
    else
      readLetter start c

end Storybook.Pattern
