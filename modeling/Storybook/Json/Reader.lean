/-
**Reading JSON text.**

The tokens of a text are put together into one value. The brackets that are open form a stack, so
a text may nest as deeply as it likes in what is passed over; what is read may have 127 open
brackets, and a bracket beyond that is a value whose reading ends at once.

Where the text is not well formed it breaks off: every open bracket is closed there, and the fault
stands in the value. A fault has one form when the place is read and one when it is passed over.

* `Json.read`: the value of a text, and whether anything follows it;
* `Json.decode`: the value of a text in a wanted form.
-/

import Storybook.Json.Token
import Storybook.Data.Decode

namespace Storybook.Json

open Storybook.Data

/-- How many brackets may be open in what is read. -/
def deepest : Nat :=
  127

/-- An open bracket with what it holds so far, last first. -/
inductive Frame
  | list (items : List Node)
  /-- The key is that of the member whose value comes next. A key that cannot be read spoils the
  object: what follows is only passed over. -/
  | object (members : List (String × Node)) (key : String) (spoilt : Option Fault)

/-- What may come next. -/
inductive Awaited
  /-- A value. -/
  | value
  /-- A value, or the end of a list without items. -/
  | first
  /-- A value behind a comma. -/
  | item
  /-- A key, or the end of an object without members. -/
  | firstKey
  /-- A key behind a comma. -/
  | key
  /-- The colon behind a key. -/
  | colon
  /-- A comma or the end of the innermost bracket. -/
  | separator
deriving DecidableEq, Repr

/-- A fault in its two forms: where the place is read, and where it is passed over. -/
structure Break where
  read : Fault
  passed : Fault
deriving DecidableEq, Repr

/-- A break with the same fault either way. -/
def Break.same (fault : Fault) : Break :=
  ⟨fault, fault⟩

/-- How far the reading is. -/
inductive Progress
  | going (awaited : Awaited) (stack : List Frame)
  /-- The outermost value is complete. -/
  | whole (value : Node)
  /-- The text broke off. -/
  | cut (value : Node)

/-! ### Open brackets -/

namespace Frame

/-- The bracket after one more value. -/
def push (value : Node) : Frame → Frame
  | list items => list (value :: items)
  | object members key none => object ((key, value) :: members) key none
  | object members key (some fault) => object members key (some fault)

/-- The value of a bracket that ends with a fault, or properly. `passed` is the fault that passing
over its last member's value meets. -/
def close (fault passed : Option Fault) : Frame → Node
  | list items => .list (items.foldl (fun rest value => .item value rest) (.done fault))
  | object [] _ spoilt => .object (.done (spoilt <|> fault))
  | object ((key, value) :: members) _ spoilt =>
    .object (members.foldl (fun rest (key, value) => .member key value none rest)
      (.member key value passed (.done (spoilt <|> fault))))

/-- What stands for a bracket that is nested too deeply. -/
def tooDeep : Frame → Node
  | list _ => .list (.done (some .tooDeep))
  | object _ _ _ => .object (.done (some .tooDeep))

/-- The value of a bracket inside the brackets of `outer`. -/
def node (frame : Frame) (outer : List Frame) (fault passed : Option Fault) : Node :=
  if outer[deepest - 1]?.isNone then frame.close fault passed else frame.tooDeep

end Frame

/-! ### Breaking off -/

/-- Closes every open bracket around a value in which the text breaks off. -/
def closeAround (fault : Break) : Node → List Frame → Node
  | value, [] => value
  | value, frame :: outer =>
    closeAround fault
      ((frame.push value).node outer (some fault.read) (some fault.passed)) outer

/-- Breaks off the text in place of a value. -/
def breakValue (fault : Break) (stack : List Frame) : Node :=
  closeAround fault (.broken fault.read) stack

/-- Breaks off the text between the values of the innermost bracket. -/
def breakBetween (fault : Break) : List Frame → Node
  | [] => .broken fault.read
  | frame :: outer =>
    closeAround fault (frame.node outer (some fault.read) none) outer

/-- Breaks off the text at its end. -/
def breakAtEnd (stack : List Frame) : Awaited → Node
  | .value => breakValue (.same .endInValue) stack
  | .first => breakBetween (.same .endInList) stack
  | .item => breakBetween (.same .endInValue) stack
  | .firstKey => breakBetween (.same .endInObject) stack
  | .key => breakBetween ⟨.endInValue, .endInObject⟩ stack
  | .colon => breakValue (.same .endInObject) stack
  | .separator =>
    match stack with
    | .object _ _ _ :: _ => breakBetween (.same .endInObject) stack
    | _ => breakBetween (.same .endInList) stack

/-! ### Steps -/

/-- A value is complete. -/
def complete (value : Node) : List Frame → Progress
  | [] => .whole value
  | frame :: outer => .going .separator (frame.push value :: outer)

/-- The innermost bracket ends. -/
def closeInnermost : List Frame → Progress
  | [] => .cut (.broken .noValue)
  | frame :: outer => complete (frame.node outer none none) outer

/-- A token that holds a value. -/
def placeLexeme (content : Except Fault Node) (stack : List Frame) : Option Fault → Progress
  | none =>
    match content with
    | .ok value => complete value stack
    | .error fault => complete (.broken fault) stack
  | some passed =>
    match content with
    | .ok value => .cut (closeAround (.same passed) value stack)
    | .error fault => .cut (breakValue ⟨fault, passed⟩ stack)

/-- A token in place of a value. -/
def placeValue (stack : List Frame) : Token → Progress
  | .opening .list => .going .first (.list [] :: stack)
  | .opening .object => .going .firstKey (.object [] "" none :: stack)
  | .plain lexeme => placeLexeme lexeme.content stack lexeme.passed
  | .text lexeme => placeLexeme (Node.text <$> lexeme.content) stack lexeme.passed
  | _ => .cut (breakValue (.same .noValue) stack)

/-- A token in place of a key. -/
def placeKey (token : Token) (stack : List Frame) : Progress :=
  match token, stack with
  | .text ⟨.ok key, none⟩, .object members _ spoilt :: outer =>
    .going .colon (.object members key spoilt :: outer)
  | .text ⟨.error fault, none⟩, .object members _ spoilt :: outer =>
    .going .colon (.object members "" (spoilt <|> some fault) :: outer)
  | .text ⟨.error fault, some passed⟩, _ => .cut (breakBetween ⟨fault, passed⟩ stack)
  | _, _ => .cut (breakBetween (.same .badKey) stack)

/-- A token behind a value. -/
def placeSeparator (token : Token) (stack : List Frame) : Progress :=
  match token, stack with
  | .comma, .list _ :: _ => .going .item stack
  | .comma, .object _ _ _ :: _ => .going .key stack
  | .closing .list, .list _ :: _ => closeInnermost stack
  | .closing .object, .object _ _ _ :: _ => closeInnermost stack
  | _, .object _ _ _ :: _ => .cut (breakBetween (.same .noObjectEnd) stack)
  | _, _ => .cut (breakBetween (.same .noListEnd) stack)

/-- One token. -/
def step (token : Token) (stack : List Frame) : Awaited → Progress
  | .value => placeValue stack token
  | .first =>
    match token with
    | .closing .list => closeInnermost stack
    | token => placeValue stack token
  | .item =>
    match token with
    | .closing .list => .cut (breakBetween ⟨.trailingComma, .noValue⟩ stack)
    | token => placeValue stack token
  | .firstKey =>
    match token with
    | .closing .object => closeInnermost stack
    | token => placeKey token stack
  | .key =>
    match token with
    | .closing .object => .cut (breakBetween ⟨.trailingComma, .badKey⟩ stack)
    | token => placeKey token stack
  | .colon =>
    match token with
    | .colon => .going .value stack
    | _ => .cut (breakValue (.same .noColon) stack)
  | .separator => placeSeparator token stack

/-! ### Whole texts -/

/-- Reads the rest of the tokens. Also tells whether tokens are left behind the outermost value. -/
def assemble : List Token → Awaited → List Frame → Node × Bool
  | [], awaited, stack => (breakAtEnd stack awaited, false)
  | token :: rest, awaited, stack =>
    match step token stack awaited with
    | .going awaited stack => assemble rest awaited stack
    | .whole value => (value, !rest.isEmpty)
    | .cut value => (value, false)

/-- The value of a text, and whether anything follows it. -/
def read (text : String) : Node × Bool :=
  assemble (tokens text.toList) .value []

/-- The value of a text in a wanted form; nothing may follow it. -/
def decode {α : Type} (decoder : Decoder α) (text : String) : Except Fault α := do
  let (node, more) := read text
  let value ← decoder node
  if more then throw .trailingCharacters
  return value

end Storybook.Json
