/-
**Reading TOML text.**

The tokens of a text are put together line by line: a line holds a header, or a key with a value,
or nothing. Arrays and inline tables may hold line ends, but not within a key. Up to 80 of their
brackets may be open, and a key consists of up to 80 names.

* `Toml.read?`: the members of a document, if the text is one.
-/

import Storybook.Toml.Tree

namespace Storybook.Toml

open Storybook.Data

/-- How many brackets may be open, and how many names a key may consist of. -/
def deepest : Nat :=
  80

/-! ### Keys -/

/-- A part of a key as it is written. -/
inductive Piece
  | word (letters : List Char)
  | text (value : String)
deriving DecidableEq, Repr

/-- The characters of a key without quotes. -/
def isKeyLetter (c : Char) : Bool :=
  c.isAlphanum || c = '-' || c = '_'

/-- The names of a row of letters and the dots between them, which are `none`; `name` holds the
letters before it, last first. -/
def splitDots (name : List Char) : List Char → List (Option String)
  | [] => named name []
  | '.' :: rest => named name (none :: splitDots [] rest)
  | c :: rest => splitDots (c :: name) rest
where
  named (name : List Char) (rest : List (Option String)) : List (Option String) :=
    if name.isEmpty then rest else some (ofReversed name) :: rest

/-- The names and dots of a part of a key. -/
def Piece.names? : Piece → Option (List (Option String))
  | word letters =>
    if letters.all fun c => isKeyLetter c || c = '.' then some (splitDots [] letters) else none
  | text value => some [some value]

/-- Names with a dot between each two of them. -/
def undotted? : List (Option String) → Option (List String)
  | [some name] => some [name]
  | some name :: none :: rest => (name :: ·) <$> undotted? rest
  | _ => none

/-- The names that a key consists of; its parts are given last first. -/
def keyPath? (pieces : List Piece) : Option (List String) := do
  let path ← undotted? (← pieces.reverse.mapM Piece.names?).flatten
  guard (path.length ≤ deepest)
  return path

/-- The part of a key that a token is. -/
def Piece.ofToken? : Token → Option Piece
  | .word letters => some (.word letters)
  | .text value => some (.text value)
  | _ => none

/-! ### States -/

/-- Where a key stands. -/
inductive Place
  | line
  | header
  /-- Inside double brackets. -/
  | itemHeader
  /-- Inside an inline table. -/
  | member
deriving DecidableEq, Repr

/-- What may come next. -/
inductive Awaited
  /-- A header, a key or the end of the line. -/
  | line
  | lineEnd
  /-- The key of a header, or the second one of double brackets. -/
  | headerStart
  /-- The second one of double brackets. -/
  | headerEnd (path : List String)
  | key (place : Place) (pieces : List Piece)
  /-- What stands between a key in an inline table and its value. -/
  | equals
  | value
  /-- A value, or the end of an array. -/
  | item
  /-- A key, or the end of an inline table. -/
  | member
  /-- The time of day of a date, or what follows a value. -/
  | time (date : List Char)
  /-- A comma or a closing bracket. -/
  | separator
deriving DecidableEq, Repr

/-- What encloses a value. -/
inductive Frame
  /-- A line, with the key of the value. -/
  | line (path : List String)
  /-- An array with its items so far, last first. -/
  | array (items : List Tree)
  /-- An inline table with its members so far, and the key of the value. -/
  | table (tree : Tree) (path : List String)

/-- How far the reading is. -/
structure Draft where
  document : Tree
  /-- The path of the last header. -/
  header : List String
  stack : List Frame
  awaited : Awaited

namespace Draft

/-- Nothing has been read. -/
def initial : Draft :=
  ⟨.emptyTable .defined, [], [], .line⟩

/-- The draft with another thing to come. -/
def await (draft : Draft) (awaited : Awaited) : Draft :=
  { draft with awaited }

/-- A value is complete. -/
def complete (draft : Draft) (value : Tree) : Option Draft :=
  match draft.stack with
  | .line path :: _ => do
    let document ← draft.document.captureIn draft.header path value
    return { draft with document, stack := [], awaited := .lineEnd }
  | .array items :: outer =>
    some { draft with stack := .array (value :: items) :: outer, awaited := .separator }
  | .table tree path :: outer => do
    let tree ← tree.capture path value
    return { draft with stack := .table tree [] :: outer, awaited := .separator }
  | [] => none

/-- A word in place of a value is complete. -/
def completeWord (draft : Draft) (letters : List Char) : Option Draft := do
  draft.complete (← Tree.ofWord? letters)

/-- The innermost bracket is closed. -/
def close (draft : Draft) (bracket : Bracket) : Option Draft :=
  match bracket, draft.stack with
  | .square, .array items :: outer => { draft with stack := outer }.complete (.array items.reverse)
  | .curly, .table tree _ :: outer => { draft with stack := outer }.complete tree.close
  | _, _ => none

/-- A bracket is opened in place of a value. -/
def openBracket (draft : Draft) (bracket : Bracket) : Option Draft := do
  guard (draft.stack.length ≤ deepest)
  return match bracket with
    | .square => { draft with stack := .array [] :: draft.stack, awaited := .item }
    | .curly =>
      { draft with
        stack := .table (.emptyTable .defined) [] :: draft.stack
        awaited := .member }

/-- A key in an inline table is complete. -/
def completeMember (draft : Draft) (pieces : List Piece) (awaited : Awaited) : Option Draft := do
  let path ← keyPath? pieces
  match draft.stack with
  | .table tree _ :: outer => return { draft with stack := .table tree path :: outer, awaited }
  | _ => none

/-- A key is complete. -/
def completeKey (draft : Draft) (pieces : List Piece) : Place → Token → Option Draft
  | .line, .equals => do
    let path ← keyPath? pieces
    return { draft with stack := [.line path], awaited := .value }
  | .member, .equals => draft.completeMember pieces .value
  | .member, .lineEnd => draft.completeMember pieces .equals
  | .header, .closing .square => do
    let header ← keyPath? pieces
    return { draft with
      document := ← draft.document.define header
      header
      awaited := .lineEnd }
  | .itemHeader, .closing .square => do return draft.await (.headerEnd (← keyPath? pieces))
  | _, _ => none

/-- A line end in front of a value, which may stand there in an inline table. -/
def skipLineEnd (draft : Draft) : Option Draft :=
  match draft.stack with
  | .table _ _ :: _ => some draft
  | _ => none

/-- A token in place of a value. -/
def placeValue (draft : Draft) : Token → Option Draft
  | .lineEnd => draft.skipLineEnd
  | .opening bracket => draft.openBracket bracket
  | .word letters =>
    if Scalar.isDate letters then some (draft.await (.time letters)) else draft.completeWord letters
  | .text value => draft.complete (.leaf (.text value))
  | .block value => draft.complete (.leaf (.text value))
  | _ => none

/-- A token behind a value. -/
def placeSeparator (draft : Draft) : Token → Option Draft
  | .lineEnd => some draft
  | .comma =>
    match draft.stack with
    | .array _ :: _ => some (draft.await .item)
    | .table _ _ :: _ => some (draft.await .member)
    | _ => none
  | .closing bracket => draft.close bracket
  | _ => none

/-- A token that begins a key. -/
def placeKey (draft : Draft) (place : Place) (token : Token) : Option Draft := do
  return draft.await (.key place [← Piece.ofToken? token])

/-- A token behind a value or at the end of a line. -/
def placeBehind (draft : Draft) (token : Token) : Option Draft :=
  match draft.awaited, token with
  | .separator, token => draft.placeSeparator token
  | .lineEnd, .lineEnd => some (draft.await .line)
  | _, _ => none

/-- One token. -/
def step (draft : Draft) (lexeme : Lexeme) : Option Draft :=
  match draft.awaited, lexeme.token with
  | .line, .lineEnd => some draft
  | .line, .opening .square => some (draft.await .headerStart)
  | .line, token => draft.placeKey .line token
  | .headerStart, .opening .square =>
    if lexeme.gap = [] then some (draft.await (.key .itemHeader [])) else none
  | .headerStart, token => draft.placeKey .header token
  | .headerEnd header, .closing .square => do
    guard (lexeme.gap = [])
    return { draft with
      document := ← draft.document.defineItem header
      header
      awaited := .lineEnd }
  | .key place pieces, token =>
    match Piece.ofToken? token with
    | some piece => some (draft.await (.key place (piece :: pieces)))
    | none => draft.completeKey pieces place token
  | .equals, .lineEnd => some draft
  | .equals, .equals => some (draft.await .value)
  | .value, token => draft.placeValue token
  | .item, .lineEnd => some draft
  | .item, .closing .square => draft.close .square
  | .item, token => draft.placeValue token
  | .member, .lineEnd => some draft
  | .member, .closing .curly => draft.close .curly
  | .member, token => draft.placeKey .member token
  | .time date, .word letters =>
    if lexeme.gap = [' '] then draft.completeWord (date ++ ' ' :: letters) else none
  | .time date, token => do (← draft.completeWord date).placeBehind token
  | _, token => draft.placeBehind token

/-- The document when the text has ended. -/
def finish (draft : Draft) : Option Tree :=
  match draft.awaited with
  | .line => some draft.document
  | .lineEnd => some draft.document
  | .time date => do
    let draft ← draft.completeWord date
    guard (draft.awaited = .lineEnd)
    return draft.document
  | _ => none

end Draft

/-! ### Whole texts -/

/-- The members of a document. -/
def read? (text : String) : Option (List (String × Node)) := do
  match ← (← (← lexemes? text).foldlM Draft.step .initial).finish with
  | .table _ members => Tree.memberNodes? members
  | _ => none

end Storybook.Toml
