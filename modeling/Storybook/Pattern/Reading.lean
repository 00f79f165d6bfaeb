/-
**Reading patterns.**

A pattern is put together from the left to the right. Groups that are open wait for what is read
inside of them.

* `Draft`: how far a pattern has been read;
* `Tree.ofText`: the tree of a pattern, or the first fault.
-/

import Storybook.Pattern.Bracket

namespace Storybook.Pattern

open Reader

/-! ### Levels -/

/-- The branches between two brackets. -/
structure Level where
  /-- Where the first branch begins. -/
  start : Place
  /-- The branches that are complete, last first. -/
  branches : List Tree
  /-- Where the last branch begins. -/
  branchStart : Place
  /-- The parts of the last branch, last first. -/
  parts : List Tree

namespace Level

/-- Nothing has been read from a place on. -/
def startAt (place : Place) : Level :=
  ⟨place, [], place, []⟩

/-- Adds a part. -/
def push (level : Level) (part : Tree) : Level :=
  { level with parts := part :: level.parts }

/-- The last branch, which ends at a place. -/
def branch (level : Level) (stop : Place) : Tree :=
  Tree.ofParts ⟨level.branchStart, stop⟩ level.parts.reverse

/-- The tree of the branches, the last of which ends at a place. -/
def tree (level : Level) (stop : Place) : Tree :=
  if level.branches.isEmpty then
    level.branch stop
  else
    .choice (level.branch stop :: level.branches).reverse ⟨level.start, stop⟩

/-- Goes on with another branch. -/
def nextBranch (level : Level) (stop start : Place) : Level :=
  ⟨level.start, level.branch stop :: level.branches, start, []⟩

end Level

/-- A group that is not closed yet. -/
structure OpenGroup where
  opening : Span
  isCaptured : Bool
  settings : List Setting
  /-- Whether the pattern around the group is loose. -/
  loose : Bool
  /-- What is in front of the group. -/
  outside : Level

/-- How far a pattern has been read: the branches between the last two brackets, and the groups that
are open, the inner ones first. -/
structure Draft where
  level : Level
  groups : List OpenGroup

/-- Adds a part. -/
def Draft.push (draft : Draft) (part : Tree) : Draft :=
  { draft with level := draft.level.push part }

/-! ### Flags -/

/-- Flags as they are written; a dash takes back those behind it. -/
abbrev FlagRow : Type :=
  List (Option Flag × Span)

/-- The settings of a row of flags. -/
def settingsOf (value : Bool) : FlagRow → List Setting
  | [] => []
  | (none, _) :: rest => settingsOf false rest
  | (some flag, _) :: rest => ⟨flag, value⟩ :: settingsOf value rest

/-- What a character stands for in a row of flags. -/
def flagOf (c : Char) (span : Span) : Except Fault (Option Flag) :=
  if c = '-' then
    .ok none
  else
    match Flag.ofLetter? c with
    | some flag => .ok (some flag)
    | none => .error ⟨.flagUnknown, span, none⟩

/-- Adds a flag or a dash to a row of flags, which are last first. Each may occur once. -/
def addFlag (row : FlagRow) (c : Char) (span : Span) : Except Fault FlagRow := do
  let flag ← flagOf c span
  match row.find? (·.1 = flag) with
  | some (_, other) =>
    let cause := if flag.isSome then Cause.flagTwice else Cause.flagNegationTwice
    throw ⟨cause, span, some other⟩
  | none => return (flag, span) :: row

/-- The row of flags up to a colon or a bracket at the start of a text; `row` holds those in front
of it, last first. -/
def flagsUpTo (row : FlagRow) (place : Place) : List Char → Except Fault FlagRow
  | [] => throw ⟨.flagUnfinished, .point place, none⟩
  | c :: rest =>
    if c = ':' ∨ c = ')' then
      match row with
      | (none, span) :: _ => throw ⟨.flagNothingNegated, span, none⟩
      | _ => return row.reverse
    else do
      let row ← addFlag row c ⟨place, place.behind c⟩
      flagsUpTo row (place.behind c) rest

/-- A row of flags. -/
def readFlags : Reader FlagRow := do
  let row ← flagsUpTo [] (← place) (← rest)
  advance row.length
  return row

/-- Whether a pattern is loose behind some settings. -/
def looseBehind (settings : List Setting) (loose : Bool) : Bool :=
  ((settings.find? (·.flag = .loose)).map Setting.value).getD loose

/-- Makes the pattern loose, or not so. -/
def setLoose (loose : Bool) : Reader Unit :=
  modify fun source => { source with loose }

/-! ### Groups -/

/-- Whether a character may occur in the name of a group. -/
def isNameLetter (isFirst : Bool) (c : Char) : Bool :=
  c = '_' || c.isAlpha || 0x80 ≤ c.toNat ||
    (!isFirst && (c = '.' || c = '[' || c = ']' || c.isDigit))

/-- The name of a group at the start of a text, up to its end. -/
def nameUpTo (isFirst : Bool) (place : Place) : List Char → Except Fault (List Char)
  | [] => throw ⟨.nameUnclosed, .point place, none⟩
  | c :: rest =>
    if c = '>' then return []
    else if isNameLetter isFirst c then do
      return c :: (← nameUpTo false (place.behind c) rest)
    else throw ⟨.nameCharacter, ⟨place, place.behind c⟩, none⟩

/-- The name of a group, which no other group has. -/
def readName : Reader Unit := do
  let start ← place
  let letters ← nameUpTo true start (← rest)
  advance letters.length
  let span ← spanFrom start
  advance 1
  if letters.isEmpty then
    fail .nameEmpty span
  let name := String.ofList letters
  match (← get).names.lookup name with
  | some other => throw ⟨.nameTwice, span, some other⟩
  | none => modify fun source => { source with names := (name, span) :: source.names }

/-- Goes into a group. -/
def enterGroup (draft : Draft) (opening : Span) (isCaptured : Bool) (settings : List Setting) :
    Reader Draft := do
  let loose := (← get).loose
  setLoose (looseBehind settings loose)
  let opened : OpenGroup := ⟨opening, isCaptured, settings, loose, draft.level⟩
  return ⟨.startAt (← place), opened :: draft.groups⟩

/-- Takes flags, either for a group or for what follows. -/
def readFlagGroup (draft : Draft) (opening : Span) (mark : Place) : Reader Draft := do
  if ← isAtEnd then
    fail .groupUnclosed opening
  let row ← readFlags
  let settings := settingsOf true row
  if ← takes ":" then
    enterGroup draft opening false settings
  else
    advance 1
    if row.isEmpty then
      fail .nothingRepeated (.point mark)
    setLoose (looseBehind settings (← get).loose)
    return draft.push (.settings settings (← spanFrom opening.start))

/-- Takes what opens a group. -/
def openGroup (draft : Draft) : Reader Draft := do
  let opening ← nextSpan
  advance 1
  skipLoose
  if ← takes "?=" <||> takes "?!" <||> takes "?<=" <||> takes "?<!" then
    fail .lookAround (← spanFrom opening.start)
  let mark ← place
  if ← takes "?P<" <||> takes "?<" then
    readName
    enterGroup draft opening true []
  else if ← takes "?" then
    readFlagGroup draft opening mark
  else
    enterGroup draft opening true []

/-- Takes what closes a group. -/
def closeGroup (draft : Draft) : Reader Draft := do
  match draft.groups with
  | [] => fail .groupUnopened (← nextSpan)
  | group :: outer =>
    let body := draft.level.tree (← place)
    advance 1
    setLoose group.loose
    let span ← spanFrom group.opening.start
    return ⟨group.outside.push (.group group.isCaptured group.settings body span), outer⟩

/-! ### Repetitions -/

/-- The largest count. -/
def largestCount : Nat :=
  0xffffffff

/-- A count in decimal digits, or the fault of it. -/
def readCount : Reader (Except Fault Nat) := do
  let _ ← takeWhile Text.isBlank
  let start ← place
  let digits := (← spacedWhile Char.isDigit).map Prod.fst
  let span ← spanFrom start
  let _ ← spacedWhile Text.isBlank
  let count := digits.foldl (fun total digit => total * 10 + (digit.toNat - '0'.toNat)) 0
  if digits.isEmpty then return .error ⟨.countEmpty, span, none⟩
  else if largestCount < count then return .error ⟨.decimalTooLarge, span, none⟩
  else return .ok count

/-- Stops at the end of the text, inside of counts that begin at a place. -/
def requireMore (start : Place) : Reader Unit := do
  if ← isAtEnd then
    fail .countUnclosed (← spanFrom start)

/-- The least and the largest count in curly brackets. -/
def readCounts (start : Place) : Reader (Nat × Option Nat) := do
  advanceLoose
  requireMore start
  let least ← readCount
  requireMore start
  if ← comes "," then
    advanceLoose
    requireMore start
    if ← comes "\x7d" then
      return (← liftM least, none)
    else
      let least ← liftM least
      let most ← liftM (← readCount)
      return (least, some most)
  else
    let count ← liftM least
    return (count, some count)

/-- Repeats the last part. -/
def repeatLast (draft : Draft) (readCounts : Reader (Nat × Option Nat)) : Reader Draft := do
  match draft.level.parts with
  | [] => fail .nothingRepeated (← pointSpan)
  | part :: parts =>
    if part.isRepeatable then
      let (least, most) ← readCounts
      let repeated := .repeated least most part (← spanFrom part.span.start)
      return { draft with level := { draft.level with parts := repeated :: parts } }
    else
      fail .nothingRepeated (← pointSpan)

/-- Takes a mark for some counts, and the mark for a short repetition. -/
def readMark (least : Nat) (most : Option Nat) : Reader (Nat × Option Nat) := do
  advance 1
  let _ ← takes "?"
  return (least, most)

/-- Takes counts in curly brackets, and the mark for a short repetition. -/
def readBracedCounts : Reader (Nat × Option Nat) := do
  let start ← place
  let (least, most) ← readCounts start
  if !(← comes "\x7d") then
    fail .countUnclosed (← spanFrom start)
  advanceLoose
  let _ ← takes "?"
  if most.any (· < least) then
    fail .countOrder (← spanFrom start)
  return (least, most)

/-! ### Whole patterns -/

/-- Takes a branch up to the mark behind it. -/
def endBranch (draft : Draft) : Reader Draft := do
  let stop ← place
  advance 1
  return { draft with level := draft.level.nextBranch stop (← place) }

/-- Takes a bracket. -/
def readSetPart : Reader Tree := do
  match ← readBracket with
  | .bracket negated body span => return .bracket negated body span
  | other => return .bracket false other other.span

/-- Takes a single character. -/
def readCharacter (c : Char) : Reader Tree := do
  let span ← nextSpan
  advance 1
  match c with
  | '.' => return .dot span
  | '^' => return .anchor .lineStart span
  | '$' => return .anchor .lineEnd span
  | _ => return .literal ⟨c, false, span⟩

/-- Takes what comes next. -/
def readStep (draft : Draft) : Reader Draft := do
  match ← rest with
  | [] => return draft
  | '(' :: _ => openGroup draft
  | ')' :: _ => closeGroup draft
  | '|' :: _ => endBranch draft
  | '[' :: _ => return draft.push (← readSetPart)
  | '?' :: _ => repeatLast draft (readMark 0 (some 1))
  | '*' :: _ => repeatLast draft (readMark 0 none)
  | '+' :: _ => repeatLast draft (readMark 1 none)
  | '\x7b' :: _ => repeatLast draft readBracedCounts
  | '\\' :: _ => return draft.push (← readEscape)
  | c :: _ => return draft.push (← readCharacter c)

/-- The tree of a draft at the end of a text. -/
def Draft.finish (draft : Draft) (stop : Place) : Except Fault Tree :=
  match draft.groups with
  | [] => .ok (draft.level.tree stop)
  | group :: _ => .error ⟨.groupUnclosed, group.opening, none⟩

/-- The tree of a draft and the rest of a text. A step that takes nothing is at the end. -/
def readFrom (draft : Draft) (source : Source) : Except Fault Tree :=
  match (do skipLoose; readStep draft : Reader Draft) source with
  | .error fault => .error fault
  | .ok (draft, next) =>
    if next.rest.length < source.rest.length then readFrom draft next
    else draft.finish next.place
termination_by source.rest.length

/-- How deep the parts of a pattern may be nested. -/
def deepest : Nat :=
  250

/-- The tree of a pattern, or the first fault. -/
def Tree.ofText (text : String) : Except Fault Tree := do
  let tree ← readFrom ⟨.startAt .first, []⟩ (.ofText text)
  match tree.tooDeep deepest with
  | some span => throw ⟨.tooDeep deepest, span, none⟩
  | none => return tree

end Storybook.Pattern
