/-
**Reading values of a wanted form.**

A decoder turns a node into a value or names the first fault in reading order.

* `Decode.text`, `Decode.boolean`, `Decode.single`, `Decode.natural`: plain values;
* `Decode.optional`, `Decode.list`, `Decode.table`: values made of others;
* `Decode.record`: a record, written as an object with its fields in any order or as the list of
  its fields in their own order.
-/

import Storybook.Data.Node

namespace Storybook.Data

/-- A reader of values of one form. -/
abbrev Decoder (α : Type) := Node → Except Fault α

/-- One field of a record that is read into a value of type `α`. -/
structure RecordField (α : Type) where
  /-- The key of the field. -/
  name : String
  /-- Whether the field has to be there. -/
  required : Bool
  /-- Reads the field into the record. -/
  put : Node → α → Except Fault α

namespace Decode

/-- A text. -/
def text : Decoder String
  | .text value => return value
  | node => throw (node.wrongType "a string")

/-- A truth value. -/
def boolean : Decoder Bool
  | .boolean value => return value
  | node => throw (node.wrongType "a boolean")

/-- A number at single precision. -/
def single : Decoder Single
  | .number value => return value.single
  | node => throw (node.wrongType "f32")

/-- A natural number below a limit; `wanted` names its type. -/
def natural (limit : Nat) (wanted : String) : Decoder Nat
  | .number (.whole value) =>
    if 0 ≤ value ∧ value < limit then
      return value.toNat
    else
      throw (Node.wrongType wanted (.number (.whole value)))
  | node => throw (node.wrongType wanted)

/-- Either `null` or a value. -/
def optional {α : Type} (decode : Decoder α) : Decoder (Option α)
  | .null => return none
  | node => return some (← decode node)

/-- The items of a list in order. -/
def items {α : Type} (decode : Decoder α) : Items → Except Fault (List α)
  | .done none => return []
  | .done (some fault) => throw fault
  | .item value rest => return (← decode value) :: (← items decode rest)

/-- A list of values. -/
def list {α : Type} (decode : Decoder α) : Decoder (List α)
  | .list values => items decode values
  | node => throw (node.wrongType "a sequence")

/-- The members of an object, put into a sorted table. -/
def members {α : Type} (decode : Decoder α) :
    Members → Table α → Except Fault (Table α)
  | .done none, entries => return entries
  | .done (some fault), _ => throw fault
  | .member key value _ rest, entries => do
    members decode rest (Table.insert key (← decode value) entries)

/-- A table of values, sorted by key; of equal keys the last one counts. -/
def table {α : Type} (decode : Decoder α) : Decoder (Table α)
  | .object values => members decode values []
  | node => throw (node.wrongType "a map")

/-- A number of things in words. -/
def counted (count : Nat) (thing : String) : String :=
  if count = 1 then s!"1 {thing}" else s!"{count} {thing}s"

/-- Reads the members of an object into a record. `given` holds the fields that were read before. A
field that is given twice is a fault, and so is one that cannot be passed over. -/
def collect {α : Type} (fields : List (RecordField α)) :
    Members → List String → α → Except Fault (List String × α)
  | .done none, given, record => return (given, record)
  | .done (some fault), _, _ => throw fault
  | .member key value passed rest, given, record =>
    match fields.find? fun field => field.name = key with
    | some field => do
      if key ∈ given then throw (.duplicateField key)
      collect fields rest (key :: given) (← field.put value record)
    | none =>
      match passed with
      | some fault => throw fault
      | none => collect fields rest given record

/-- The fault of a list that ends badly after the last field of a record: whatever follows there is
too much. -/
def surplus : Fault → Fault
  | .noListEnd => .trailingCharacters
  | .endInValue => .trailingCharacters
  | fault => fault

/-- Reads the items of a list into the fields of a record in order. Fields that need not be there
may be missing at the end. `count` fields are already read, and `tooMany` is the fault of a list
with more items. -/
def arrange {α : Type} (wanted : String) (tooMany : Nat → Fault) :
    List (RecordField α) → Nat → Items → α → Except Fault α
  | [], _, .done none, record => return record
  | [], _, .done (some fault), _ => throw (surplus fault)
  | [], count, .item _ rest, _ => throw (tooMany (count + 1 + rest.length))
  | field :: fields, count, .item value rest, record => do
    arrange wanted tooMany fields (count + 1) rest (← field.put value record)
  | _ :: _, _, .done (some fault), _ => throw fault
  | field :: fields, count, .done none, record =>
    if field.required then
      throw (.wrongLength count wanted)
    else
      arrange wanted tooMany fields (count + 1) (.done none) record

/-- A record. `blank` holds the values of fields that are not given, `wanted` names the type of the
record, and `tooMany` is the fault of a list that is too long. -/
def record {α : Type} (wanted : String) (fields : List (RecordField α)) (blank : α)
    (tooMany : Nat → Fault := fun _ => .trailingCharacters) : Decoder α
  | .object values => do
    let (given, value) ← collect fields values [] blank
    match fields.find? fun field => field.required && !given.contains field.name with
    | some field => throw (.missingField field.name)
    | none => return value
  | .list values =>
    let expected := wanted ++ " with " ++ counted fields.length "element"
    arrange expected tooMany fields 0 values blank
  | node => throw (node.wrongType wanted)

end Decode

end Storybook.Data
