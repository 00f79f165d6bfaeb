/-
**What patterns mean.**

An expression stands for texts, and for the places where one of them begins or ends. A text matches
if some part of it is one of those of the expression. The search goes from all places of the text
at once: a row of truth values, one for each place, says where the search may be.

* `Letters.has`: whether a set holds a character;
* `Expression.ends`: the places where a part of a text may end, by those where it may begin;
* `Expression.occursIn`: whether a text has a part that an expression stands for;
* `Expression.weight`: how much room an expression takes.
-/

import Storybook.Pattern.Tree

namespace Storybook.Pattern

/-! ### Sets of characters -/

/-- A set of characters. -/
inductive Letters where
  | none
  | range (first last : Char)
  /-- The Latin letters of a set in both cases, and its other characters. -/
  | anyCase (letters : Letters)
  | union (first second : Letters)
  | combined (operation : SetOperation) (first second : Letters)
  | complement (letters : Letters)
deriving DecidableEq, Repr

namespace Letters

/-- The set of one character. -/
def single (c : Char) : Letters :=
  range c c

/-- Several sets together. -/
def unions (sets : List Letters) : Letters :=
  sets.foldl union none

/-- Whether a set holds a character. -/
def has : Letters → Char → Bool
  | none, _ => false
  | range first last, c => first ≤ c && c ≤ last
  | anyCase letters, c => letters.has c || letters.has c.toLower || letters.has c.toUpper
  | union first second, c => first.has c || second.has c
  | combined .intersection first second, c => first.has c && second.has c
  | combined .difference first second, c => first.has c && !second.has c
  | combined .symmetricDifference first second, c => first.has c != second.has c
  | complement letters, c => !letters.has c

/-- Whether a set may only hold the first 128 characters. -/
def isNarrow : Letters → Bool
  | none => true
  | range _ last => last.toNat < 0x80
  | anyCase letters => letters.isNarrow
  | union first second => first.isNarrow && second.isNarrow
  | combined .intersection first second => first.isNarrow || second.isNarrow
  | combined .difference first _ => first.isNarrow
  | combined .symmetricDifference first second => first.isNarrow && second.isNarrow
  | complement _ => false

end Letters

/-! ### Edges -/

/-- Which side of a place there is a letter on. -/
inductive WordEdge where
  | either
  | neither
  | start
  | stop
  /-- No letter is in front. -/
  | startHalf
  /-- No letter is behind. -/
  | stopHalf
deriving DecidableEq, Repr

/-- A place in a text. -/
inductive Edge where
  | textStart
  | textEnd
  /-- The start of a line, whose end may have two parts. -/
  | lineStart (twoPartEnds : Bool)
  /-- The end of a line, which may have two parts. -/
  | lineEnd (twoPartEnds : Bool)
  /-- The edge of a word; the letters may be those of all scripts. -/
  | word (edge : WordEdge) (unicode : Bool)
deriving DecidableEq, Repr

/-- Whether a character is a Latin letter, a digit or a low line. -/
def isWordLetter (c : Char) : Bool :=
  c.isAlphanum || c = '_'

/-- Whether a place is an edge of a word, if there is a letter in front of it and behind it. -/
def WordEdge.holds (edge : WordEdge) (front behind : Bool) : Bool :=
  match edge with
  | either => front != behind
  | neither => front == behind
  | start => !front && behind
  | stop => front && !behind
  | startHalf => !front
  | stopHalf => !behind

/-- Whether a place is an edge, by the characters in front of it and behind it. -/
def Edge.holds (edge : Edge) (front behind : Option Char) : Bool :=
  match edge with
  | textStart => front.isNone
  | textEnd => behind.isNone
  | lineStart false => front.isNone || front = some '\n'
  | lineEnd false => behind.isNone || behind = some '\n'
  | lineStart true =>
    front.isNone || front = some '\n' || (front = some '\r' && behind ≠ some '\n')
  | lineEnd true =>
    behind.isNone || behind = some '\r' || (behind = some '\n' && front ≠ some '\r')
  | word side _ => side.holds (front.any isWordLetter) (behind.any isWordLetter)

/-! ### Expressions -/

/-- What a pattern means. -/
inductive Expression where
  | empty
  | letter (letters : Letters)
  | edge (edge : Edge)
  | row (first second : Expression)
  | choice (first second : Expression)
  /-- An expression at least so many times, and at most so many times if there is a limit. -/
  | repeated (least : Nat) (most : Option Nat) (body : Expression)
  /-- A group whose place is taken down. -/
  | group (body : Expression)
deriving DecidableEq, Repr

/-! ### Search -/

/-- For each place of a text whether it is of some kind. -/
abbrev Places : Type :=
  List Bool

/-- The places that are of one of two kinds. -/
def Places.or (first second : Places) : Places :=
  List.zipWith (· || ·) first second

/-- The places of a text that are an edge. -/
def Edge.places (edge : Edge) (text : List Char) : Places :=
  List.zipWith edge.holds (none :: text.map some) (text.map some ++ [none])

/-- So many steps, or as many as change something. -/
def steps (step : Places → Places) : Nat → Places → Places
  | 0, places => places
  | count + 1, places =>
    let next := step places
    if next = places then places else steps step count next

namespace Expression

/-- Where a part of a text may end, by where it may begin. A row of steps that lets the places stay
as well finds all of them after one step for each place. -/
def ends (text : List Char) : Expression → Places → Places
  | empty, places => places
  | letter letters, places =>
    false :: List.zipWith (fun here c => here && letters.has c) places text
  | edge place, places => List.zipWith (· && ·) places (place.places text)
  | row first second, places => second.ends text (first.ends text places)
  | choice first second, places => Places.or (first.ends text places) (second.ends text places)
  | repeated least most body, places =>
    let further := match most with
      | some most => most - least
      | none => text.length + 1
    steps (fun places => places.or (body.ends text places)) further
      (steps (body.ends text) least places)
  | group body, places => body.ends text places

/-- Whether a text has a part that an expression stands for. -/
def occursIn (expression : Expression) (text : String) : Bool :=
  let letters := text.toList
  (expression.ends letters (List.replicate (letters.length + 1) true)).any id

/-! ### Limits -/

/-- Whether an expression asks for the letters of all scripts. -/
def isWide : Expression → Bool
  | edge (.word _ unicode) => unicode
  | row first second => first.isWide || second.isWide
  | choice first second => first.isWide || second.isWide
  | repeated _ _ body => body.isWide
  | group body => body.isWide
  | _ => false

/-- Whether an expression stands for places only. -/
def isBare : Expression → Bool
  | empty => true
  | letter _ => false
  | edge _ => true
  | row first second => first.isBare && second.isBare
  | choice first second => first.isBare && second.isBare
  | repeated _ most body => most = some 0 || body.isBare
  | group body => body.isBare

/-- A repetition. Places are not repeated, and no repetition stands for no part. -/
def times (least : Nat) (most : Option Nat) (body : Expression) : Expression :=
  let least := if body.isBare then min least 1 else least
  let most := if body.isBare then some (min (most.getD 1) 1) else most
  if most = some 0 then empty
  else if least = 1 ∧ most = some 1 then body
  else repeated least most body

/-- How many bytes a state of a search takes. -/
def stateWeight : Nat :=
  32

/-- How many bytes a way from a state to another one takes. -/
def stepWeight : Nat :=
  8

/-- How many bytes a set takes that holds characters of several lengths, about. -/
def wideWeight : Nat :=
  1000

/-- How many bytes the states for a set take, about. -/
def lettersWeight (letters : Letters) : Nat :=
  match letters with
  | .range first last =>
    if first = last then first.utf8Size * stateWeight
    else if letters.isNarrow then 2 * stateWeight + stepWeight
    else wideWeight
  | _ => if letters.isNarrow then 2 * stateWeight + 2 * stepWeight else wideWeight

/-- How many bytes the states of an expression take, about. -/
def weight : Expression → Nat
  | empty => stateWeight
  | letter letters => lettersWeight letters
  | edge _ => stateWeight
  | row first second => first.weight + second.weight
  | choice first second => first.weight + second.weight + stateWeight + stepWeight
  | repeated least (some most) body =>
    most * body.weight + (most - least) * (stateWeight + stepWeight) + stateWeight
  | repeated least none body => max least 1 * body.weight + stateWeight + stepWeight
  | group body => body.weight + 2 * stateWeight

end Expression

end Storybook.Pattern
