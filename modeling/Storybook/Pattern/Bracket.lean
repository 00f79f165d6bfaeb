/-
**Sets of characters in square brackets.**

A bracket holds characters, ranges of them, sets with a name or a letter, and further brackets. Two
sets may be joined by an operation; of several operations the first one binds most.

* `OpenSet`: a bracket that is open;
* `readBracket`: the set of a bracket.
-/

import Storybook.Pattern.Escape

namespace Storybook.Pattern

open Reader

/-! ### Open brackets -/

/-- A bracket that is not closed yet. -/
structure OpenSet where
  /-- The first characters of the bracket. -/
  opening : Span
  negated : Bool
  /-- The set and the operation in front of the items. -/
  before : Option (SetTree × SetOperation)
  /-- The items behind the last operation, last first. -/
  items : List SetTree
  /-- Where the items begin. -/
  start : Place

namespace OpenSet

/-- Adds an item. -/
def push (opened : OpenSet) (item : SetTree) : OpenSet :=
  { opened with items := item :: opened.items }

/-- The set up to the last item. -/
def joined (opened : OpenSet) : SetTree :=
  let last := SetTree.ofItems opened.start opened.items.reverse
  match opened.before with
  | some (first, operation) =>
    .combined operation first last ⟨first.span.start, last.span.stop⟩
  | none => last

/-- Goes on behind an operation. -/
def operate (opened : OpenSet) (operation : SetOperation) (start : Place) : OpenSet :=
  { opened with before := some (opened.joined, operation), items := [], start }

/-- The set of the bracket, which ends at a place. -/
def close (opened : OpenSet) (stop : Place) : SetTree :=
  .bracket opened.negated opened.joined ⟨opened.opening.start, stop⟩

end OpenSet

/-- The start of a bracket. Dashes at it stand for themselves, and so does a closing bracket. -/
def openSet : Reader OpenSet := do
  let start ← place
  advanceLoose
  if ← isAtEnd then
    fail .setUnclosed (← spanFrom start)
  let negated ← comes "^"
  if negated then
    advanceLoose
    if ← isAtEnd then
      fail .setUnclosed (← spanFrom start)
  let itemStart ← place
  let dashes ← spacedWhile (· = '-')
  if ← isAtEnd then
    fail .setUnclosed (.point start)
  if dashes.isEmpty && (← comes "]") then
    let span ← nextSpan
    advanceLoose
    if ← isAtEnd then
      fail .setUnclosed (← spanFrom start)
    return ⟨← spanFrom start, negated, none, [.literal ⟨']', false, span⟩], itemStart⟩
  else
    let items := dashes.map fun (c, span) => .literal ⟨c, false, span⟩
    return ⟨← spanFrom start, negated, none, items.reverse, itemStart⟩

/-! ### Items -/

/-- A set with a name in brackets and colons at the start of a text, whether all other characters
are meant, and its length. -/
def namedSet? (source : List Char) : Option (NamedSet × Bool × Nat) :=
  match source with
  | '[' :: ':' :: rest =>
    let negated := rest.head? = some '^'
    let rest := if negated then rest.drop 1 else rest
    let name := rest.takeWhile (· ≠ ':')
    match NamedSet.ofName? (String.ofList name), rest.drop name.length with
    | some named, ':' :: ']' :: behind => some (named, negated, source.length - behind.length)
    | _, _ => none
  | _ => none

/-- A character or an escape in a bracket. -/
def readSetLeaf : Reader Tree := do
  match ← rest with
  | [] => fail .escapeUnfinished (← pointSpan)
  | '\\' :: _ => readEscape
  | c :: _ =>
    let span ← nextSpan
    advance 1
    return .literal ⟨c, false, span⟩

/-- The set that a leaf stands for. -/
def setOfLeaf : Tree → Reader SetTree
  | .literal letter => return .literal letter
  | .short letters negated span => return .short letters negated span
  | .property name span => return .property name span
  | tree => fail .escapeInSet tree.span

/-- The character that a leaf stands for. -/
def literalOfLeaf : Tree → Reader Literal
  | .literal letter => return letter
  | tree => fail .rangeEnd tree.span

/-- The character behind the next one, if blanks and the mark of a remark are left out. -/
def comesBehind : Reader (Option Char) := do
  let source ← get
  let behind := source.rest.drop 1
  if source.loose then
    let dropped := behind.dropWhile Text.isBlank
    let dropped :=
      if dropped.head? = some '#' then (dropped.drop 1).dropWhile Text.isBlank else dropped
    return dropped.head?.or behind.head?
  else
    return behind.head?

/-- A range or a single item. -/
def readSetItem (opening : Span) : Reader SetTree := do
  let first ← readSetLeaf
  skipLoose
  if ← isAtEnd then
    fail .setUnclosed opening
  let behind ← comesBehind
  if !(← comes "-") || behind = some ']' || behind = some '-' then
    setOfLeaf first
  else
    advanceLoose
    if ← isAtEnd then
      fail .setUnclosed opening
    let last ← readSetLeaf
    let span : Span := ⟨first.span.start, last.span.stop⟩
    let first ← literalOfLeaf first
    let last ← literalOfLeaf last
    if last.char < first.char then
      fail .rangeOrder span
    return .range first last span

/-! ### Whole brackets -/

/-- A bracket with those around it, the inner ones first, or the set of the outermost one. -/
abbrev SetProgress : Type :=
  (OpenSet × List OpenSet) ⊕ SetTree

/-- Closes a bracket. -/
def closeSet (opened : OpenSet) (outer : List OpenSet) : Reader SetProgress := do
  advance 1
  let closed := opened.close (← place)
  match outer with
  | [] => return .inr closed
  | next :: outer => return .inl (next.push closed, outer)

/-- Takes an operation. -/
def operateSet (opened : OpenSet) (outer : List OpenSet) (operation : SetOperation) :
    Reader SetProgress := do
  advance 2
  return .inl (opened.operate operation (← place), outer)

/-- Takes what comes next in a bracket. -/
def setStep (opened : OpenSet) (outer : List OpenSet) : Reader SetProgress := do
  skipLoose
  match ← rest with
  | [] => fail .setUnclosed opened.opening
  | '[' :: rest =>
    let start ← place
    match namedSet? ('[' :: rest) with
    | some (named, negated, length) =>
      advance length
      return .inl (opened.push (.named named negated (← spanFrom start)), outer)
    | none => return .inl (← openSet, opened :: outer)
  | ']' :: _ => closeSet opened outer
  | '&' :: '&' :: _ => operateSet opened outer .intersection
  | '-' :: '-' :: _ => operateSet opened outer .difference
  | '~' :: '~' :: _ => operateSet opened outer .symmetricDifference
  | _ => return .inl (opened.push (← readSetItem opened.opening), outer)

/-- The set of a bracket, by what is open. Each step takes some characters. -/
def readSet (opened : OpenSet) (outer : List OpenSet) (source : Source) :
    Except Fault (SetTree × Source) :=
  match setStep opened outer source with
  | .error fault => .error fault
  | .ok (.inr closed, next) => .ok (closed, next)
  | .ok (.inl (opened, outer), next) =>
    if next.rest.length < source.rest.length then readSet opened outer next
    else .error ⟨.setUnclosed, opened.opening, none⟩
termination_by source.rest.length

/-- The set of a bracket. -/
def readBracket : Reader SetTree := do
  readSet (← openSet) []

end Storybook.Pattern
