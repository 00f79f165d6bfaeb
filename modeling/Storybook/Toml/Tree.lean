/-
**Tables of a TOML document.**

A table comes into being in one of four ways, and that decides what may still be added to it.

* A header defines a table, once; it implies the tables on the way to it, which may be defined
  later.
* Dotted keys make the tables on their way, which only dotted keys may add to.
* An inline table is complete.

A table may also stand for a time, which is then the value of a key that is set aside for that.

Main definitions: `Tree.define`, `Tree.defineItem` and `Tree.capture`, what headers and keys do to a
document; and `Tree.node?`, the value of a tree.
-/

import Storybook.Toml.Scalar

namespace Storybook.Toml

open Storybook.Data

/-- How a table has come into being. -/
inductive Origin
  /-- By a header of a table inside of it. -/
  | implied
  /-- By a dotted key. -/
  | dotted
  /-- By a header of its own. -/
  | defined
  /-- As a value. -/
  | inline
deriving DecidableEq, Repr

/-- A value of a document. -/
inductive Tree
  | leaf (node : Node)
  /-- A time in regular form. -/
  | moment (text : String)
  | array (items : List Tree)
  /-- The tables with one header in double brackets. -/
  | tables (items : List Tree)
  | table (origin : Origin) (members : List (String × Tree))

namespace Tree

/-- The value of a word. -/
def ofWord? (letters : List Char) : Option Tree :=
  leaf <$> Scalar.ofWord? letters <|> moment <$> Scalar.moment? letters

/-- A table with nothing in it. -/
def emptyTable (origin : Origin) : Tree :=
  table origin []

/-- Puts a member into a table, in place of one with the same key. -/
def put (key : String) (value : Tree) : List (String × Tree) → List (String × Tree)
  | [] => [(key, value)]
  | (other, kept) :: rest =>
    if other = key then (key, value) :: rest else (other, kept) :: put key value rest

/-- Changes the table at the end of a path. `way` is the origin of tables that are missing on the
way. Of the tables with one header the last one is meant. -/
def within (way : Origin) (change : Origin → List (String × Tree) → Option Tree) :
    List String → Origin → List (String × Tree) → Option Tree
  | [], origin, members => change origin members
  | key :: path, origin, members => do
    let inner ← match members.lookup key with
      | none => within way change path way []
      | some (table .inline _) => none
      | some (table inner innerMembers) =>
        if way = .dotted ∧ inner = .defined then none
        else within way change path inner innerMembers
      | some (tables items) =>
        match items.getLast? with
        | some (table inner innerMembers) =>
          (fun last => tables (items.dropLast ++ [last])) <$>
            within way change path inner innerMembers
        | _ => none
      | some _ => none
    return table origin (put key inner members)

/-- Changes the table at the end of a path, which starts at a table. -/
def change (way : Origin) (path : List String)
    (change : Origin → List (String × Tree) → Option Tree) : Tree → Option Tree
  | table origin members => within way change path origin members
  | _ => none

/-- Defines a table under a key, unless there is something that was not merely implied. -/
def defineAt (key : String) (origin : Origin) (members : List (String × Tree)) : Option Tree :=
  match members.lookup key with
  | none => some (table origin (put key (emptyTable .defined) members))
  | some (table .implied inner) => some (table origin (put key (table .defined inner) members))
  | some _ => none

/-- Defines one more of the tables under a key. -/
def defineItemAt (key : String) (origin : Origin) (members : List (String × Tree)) : Option Tree :=
  match members.lookup key with
  | none => some (table origin (put key (tables [emptyTable .defined]) members))
  | some (tables items) =>
    some (table origin (put key (tables (items ++ [emptyTable .defined])) members))
  | some _ => none

/-- What a header does to a document. -/
def define (document : Tree) (path : List String) : Option Tree := do
  let key ← path.getLast?
  document.change .implied path.dropLast (defineAt key)

/-- What a header in double brackets does to a document. -/
def defineItem (document : Tree) (path : List String) : Option Tree := do
  let key ← path.getLast?
  document.change .implied path.dropLast (defineItemAt key)

/-- Puts a value under a new key. The table must be dotted if the key is, and only then. -/
def captureAt (key : String) (isDotted : Bool) (value : Tree) (origin : Origin)
    (members : List (String × Tree)) : Option Tree :=
  if decide (origin = .dotted) = isDotted ∧ (members.lookup key).isNone then
    some (table origin (put key value members))
  else
    none

/-- What a key with a value does to a table. -/
def capture (tree : Tree) (path : List String) (value : Tree) : Option Tree := do
  let key ← path.getLast?
  tree.change .dotted path.dropLast (captureAt key (1 < path.length) value)

/-- What a key with a value does to a document behind the header of a path. -/
def captureIn (document : Tree) (header path : List String) (value : Tree) : Option Tree :=
  document.change .implied header fun origin members => (table origin members).capture path value

/-- The same table as a complete value. -/
def close : Tree → Tree
  | table _ members => table .inline members
  | tree => tree

/-- The key that makes a table a time. -/
def momentKey : String :=
  "$__toml_private_datetime"

/-- What stands for the time that a table is: the value of its first key in order, if that is the
key for times. -/
def momentSource? (members : List (String × Tree)) : Option Tree :=
  if members.any fun (key, _) => key < momentKey then none else members.lookup momentKey

mutual

/-- The value of a tree. A table with the key for times has a value only if it gives one. -/
def node? : Tree → Option Node
  | leaf value => some value
  | moment text => some (.text text)
  | array items => .ofItems <$> nodes? items
  | tables items => .ofItems <$> nodes? items
  | table _ members =>
    match momentSource? members with
    | some (leaf (.text source)) => .text <$> Scalar.moment? source.toList
    | some _ => none
    | none => .ofMembers <$> memberNodes? members

/-- The values of several trees. -/
def nodes? : List Tree → Option (List Node)
  | [] => some []
  | tree :: rest => do return (← tree.node?) :: (← nodes? rest)

/-- The values of members. -/
def memberNodes? : List (String × Tree) → Option (List (String × Node))
  | [] => some []
  | (key, tree) :: rest => do return (key, ← tree.node?) :: (← memberNodes? rest)

end

end Tree

end Storybook.Toml
