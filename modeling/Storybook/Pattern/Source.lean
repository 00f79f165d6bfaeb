/-
**The text of a pattern while it is read.**

Reading goes from the left to the right and stops at the first fault. In a loose pattern blanks are
left out, and so are remarks from a number sign to the end of the line.

* `Source`, `Reader`: what is left of a text, and what reads it;
* `Reader.takeWhile`, `Reader.spacedWhile`: the next characters of a kind.
-/

import Storybook.Pattern.Tree
import Storybook.Text.Blank

namespace Storybook.Pattern

/-- What is left of the text of a pattern. -/
structure Source where
  place : Place
  rest : List Char
  /-- Whether blanks and remarks are left out. -/
  loose : Bool
  /-- The names of groups so far, and where they are. -/
  names : List (String × Span)

/-- The text of a whole pattern. -/
def Source.ofText (text : String) : Source :=
  ⟨.first, text.toList, false, []⟩

/-- A reader of a pattern. -/
abbrev Reader (α : Type) : Type :=
  StateT Source (Except Fault) α

/-- How many characters in front of a text are left out in a loose pattern. -/
def looseLength (inRemark : Bool) : List Char → Nat
  | [] => 0
  | c :: rest =>
    if inRemark then looseLength (c ≠ '\n') rest + 1
    else if Text.isBlank c then looseLength false rest + 1
    else if c = '#' then looseLength true rest + 1
    else 0

namespace Reader

/-- Stops at a fault. -/
def fail {α : Type} (cause : Cause) (span : Span) : Reader α :=
  throw ⟨cause, span, none⟩

/-- Where the reading is. -/
def place : Reader Place := do
  return (← get).place

/-- The characters that are left. -/
def rest : Reader (List Char) := do
  return (← get).rest

/-- Whether no character is left. -/
def isAtEnd : Reader Bool := do
  return (← rest).isEmpty

/-- Whether a text comes next. -/
def comes (text : String) : Reader Bool := do
  return text.toList.isPrefixOf (← rest)

/-- Goes behind so many characters. -/
def advance (count : Nat) : Reader Unit :=
  modify fun source =>
    { source with
      place := (source.rest.take count).foldl Place.behind source.place
      rest := source.rest.drop count }

/-- Goes behind what is left out. -/
def skipLoose : Reader Unit := do
  if (← get).loose then
    advance (looseLength false (← rest))

/-- Goes behind a character and what is left out behind it. -/
def advanceLoose : Reader Unit := do
  advance 1
  skipLoose

/-- Goes behind a text if it comes next. -/
def takes (text : String) : Reader Bool := do
  if ← comes text then
    advance text.length
    return true
  else
    return false

/-- The part of the text from a place on. -/
def spanFrom (start : Place) : Reader Span := do
  return ⟨start, ← place⟩

/-- The part of the text without characters that is next. -/
def pointSpan : Reader Span := do
  return .point (← place)

/-- The part of the text with the next character only. -/
def nextSpan : Reader Span := do
  let source ← get
  return ⟨source.place, (source.rest.take 1).foldl Place.behind source.place⟩

/-- The next characters of a kind. -/
def takeWhile (isKind : Char → Bool) : Reader (List Char) := do
  let letters := (← rest).takeWhile isKind
  advance letters.length
  return letters

/-- The next characters of a kind, up to a number of them. Blanks may be between them. -/
def spacedUpTo (isKind : Char → Bool) : Nat → Reader (List (Char × Span))
  | 0 => return []
  | count + 1 => do
    match ← rest with
    | [] => return []
    | c :: _ =>
      if isKind c then
        let span ← nextSpan
        advanceLoose
        return (c, span) :: (← spacedUpTo isKind count)
      else
        return []

/-- The next characters of a kind with their places. Blanks may be between them. -/
def spacedWhile (isKind : Char → Bool) : Reader (List (Char × Span)) := do
  spacedUpTo isKind (← rest).length

end Reader

end Storybook.Pattern
