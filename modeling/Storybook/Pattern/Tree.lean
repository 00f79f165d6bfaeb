/-
**Patterns as trees.**

A pattern is a choice between branches, and a branch is a row of parts. What a part means may depend
on flags that are set in front of it; the tree only says what is written, and where.

* `Literal`, `SetTree`, `Tree`: characters, sets of characters, and patterns;
* `Tree.tooDeep`: the part of a tree that is nested too deeply.
-/

import Storybook.Pattern.Fault

namespace Storybook.Pattern

/-! ### Leaves -/

/-- A character of a pattern. -/
structure Literal where
  char : Char
  /-- Whether the character is written as the number of a byte. -/
  isByte : Bool
  span : Span
deriving DecidableEq, Repr

/-- A way to read what follows. -/
inductive Flag where
  /-- The case of letters does not matter. -/
  | anyCase
  /-- The edges of lines count as those of the text. -/
  | lines
  /-- A dot stands for a line end as well. -/
  | wideDot
  /-- Repetitions are short unless they are marked. -/
  | short
  /-- Letters of all scripts count. -/
  | unicode
  /-- A line end may have two parts. -/
  | twoPartEnds
  /-- Blanks and remarks in the pattern are left out. -/
  | loose
deriving DecidableEq, Repr

/-- The flag of a letter. -/
def Flag.ofLetter? : Char → Option Flag
  | 'i' => some .anyCase
  | 'm' => some .lines
  | 's' => some .wideDot
  | 'U' => some .short
  | 'u' => some .unicode
  | 'R' => some .twoPartEnds
  | 'x' => some .loose
  | _ => none

/-- A flag that is set or taken back. -/
structure Setting where
  flag : Flag
  value : Bool
deriving DecidableEq, Repr

/-- Something between two characters, as it is written. -/
inductive Anchor where
  | lineStart
  | lineEnd
  | textStart
  | textEnd
  | wordEdge
  | noWordEdge
  | wordStart
  | wordEnd
  /-- No letter is in front. -/
  | wordStartHalf
  /-- No letter is behind. -/
  | wordEndHalf
deriving DecidableEq, Repr

/-- A set of characters that has a letter. -/
inductive ShortSet where
  | digit
  | space
  | word
deriving DecidableEq, Repr

/-- A set of characters that has a name in brackets. -/
inductive NamedSet where
  | alnum
  | alpha
  | ascii
  | blank
  | cntrl
  | digit
  | graph
  | lower
  | print
  | punct
  | space
  | upper
  | word
  | xdigit
deriving DecidableEq, Repr

/-- The set with a name. -/
def NamedSet.ofName? : String → Option NamedSet
  | "alnum" => some alnum
  | "alpha" => some alpha
  | "ascii" => some ascii
  | "blank" => some blank
  | "cntrl" => some cntrl
  | "digit" => some digit
  | "graph" => some graph
  | "lower" => some lower
  | "print" => some print
  | "punct" => some punct
  | "space" => some space
  | "upper" => some upper
  | "word" => some word
  | "xdigit" => some xdigit
  | _ => none

/-! ### Sets -/

/-- What is made of two sets. -/
inductive SetOperation where
  | intersection
  | difference
  | symmetricDifference
deriving DecidableEq, Repr

/-- A set of characters as it is written. -/
inductive SetTree where
  | empty (span : Span)
  | literal (literal : Literal)
  | range (first last : Literal) (span : Span)
  | named (set : NamedSet) (negated : Bool) (span : Span)
  | short (set : ShortSet) (negated : Bool) (span : Span)
  /-- A property of characters by its name, if no value of it is asked for. -/
  | property (name : Option String) (span : Span)
  | bracket (negated : Bool) (body : SetTree) (span : Span)
  /-- Two sets or more together. -/
  | union (items : List SetTree) (span : Span)
  | combined (operation : SetOperation) (first second : SetTree) (span : Span)
deriving Repr

namespace SetTree

/-- Where a set is written. -/
def span : SetTree → Span
  | empty span => span
  | literal letter => letter.span
  | range _ _ span => span
  | named _ _ span => span
  | short _ _ span => span
  | property _ span => span
  | bracket _ _ span => span
  | union _ span => span
  | combined _ _ _ span => span

/-- The set of some items, which has its place if there is none. -/
def ofItems (place : Place) : List SetTree → SetTree
  | [] => empty (.point place)
  | [item] => item
  | first :: rest =>
    union (first :: rest) ⟨first.span.start, ((rest.getLast?.getD first).span).stop⟩

end SetTree

/-! ### Patterns -/

/-- A pattern as it is written. -/
inductive Tree where
  | empty (span : Span)
  /-- Flags for what follows up to the end of the group. -/
  | settings (settings : List Setting) (span : Span)
  | literal (literal : Literal)
  | dot (span : Span)
  | anchor (anchor : Anchor) (span : Span)
  | short (set : ShortSet) (negated : Bool) (span : Span)
  | property (name : Option String) (span : Span)
  | bracket (negated : Bool) (body : SetTree) (span : Span)
  | repeated (least : Nat) (most : Option Nat) (body : Tree) (span : Span)
  /-- A part in brackets, with flags that only it has. -/
  | group (isCaptured : Bool) (settings : List Setting) (body : Tree) (span : Span)
  /-- Two parts or more. -/
  | row (parts : List Tree) (span : Span)
  | choice (branches : List Tree) (span : Span)
deriving Repr

namespace Tree

/-- Where a pattern is written. -/
def span : Tree → Span
  | empty span => span
  | settings _ span => span
  | literal letter => letter.span
  | dot span => span
  | anchor _ span => span
  | short _ _ span => span
  | property _ span => span
  | bracket _ _ span => span
  | repeated _ _ _ span => span
  | group _ _ _ span => span
  | row _ span => span
  | choice _ span => span

/-- The pattern of a row of parts. -/
def ofParts (span : Span) : List Tree → Tree
  | [] => empty span
  | [part] => part
  | parts => row parts span

/-- Whether a part can be repeated. -/
def isRepeatable : Tree → Bool
  | empty _ => false
  | settings _ _ => false
  | _ => true

end Tree

/-! ### Depth -/

/-- Goes into a part, for which there must be room. -/
def enter (room : Nat) (span : Span) (inside : Nat → Option Span) : Option Span :=
  match room with
  | 0 => some span
  | room + 1 => inside room

mutual

/-- The first part of a set that is nested too deeply, by the levels that are left. -/
def SetTree.tooDeep (room : Nat) : SetTree → Option Span
  | .bracket _ body span => enter room span fun room => body.tooDeep room
  | .union items span => enter room span fun room => SetTree.anyTooDeep room items
  | .combined _ first second span =>
    enter room span fun room => (first.tooDeep room).or (second.tooDeep room)
  | _ => none

/-- The first part of some sets that is nested too deeply. -/
def SetTree.anyTooDeep (room : Nat) : List SetTree → Option Span
  | [] => none
  | item :: rest => (item.tooDeep room).or (SetTree.anyTooDeep room rest)

end

mutual

/-- The first part of a pattern that is nested too deeply, by the levels that are left. -/
def Tree.tooDeep (room : Nat) : Tree → Option Span
  | .bracket _ body span => enter room span fun room => body.tooDeep room
  | .repeated _ _ body span => enter room span fun room => body.tooDeep room
  | .group _ _ body span => enter room span fun room => body.tooDeep room
  | .row parts span => enter room span fun room => Tree.anyTooDeep room parts
  | .choice branches span => enter room span fun room => Tree.anyTooDeep room branches
  | _ => none

/-- The first part of some patterns that is nested too deeply. -/
def Tree.anyTooDeep (room : Nat) : List Tree → Option Span
  | [] => none
  | tree :: rest => (tree.tooDeep room).or (Tree.anyTooDeep room rest)

end

end Storybook.Pattern
