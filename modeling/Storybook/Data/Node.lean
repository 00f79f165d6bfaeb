/-
**Documents as far as they could be read.**

A `Node` is a value of a document. Where the reading of a text broke off, the node says so in
place: a value may be `broken`, and a list or an object may end with a fault. What lies before the
break is there, so a fault of form is found before a fault of writing that comes later.

* `Node.settle`: a whole value without faults, every object sorted by key and free of repetitions.
-/

import Storybook.Table
import Storybook.Data.Fault

namespace Storybook.Data

mutual

/-- A value of a document. -/
inductive Node
  | null
  | boolean (value : Bool)
  | number (value : Number)
  | text (value : String)
  | list (items : Items)
  | object (members : Members)
  /-- The reading broke off in this value. -/
  | broken (fault : Fault)

/-- The items of a list, up to its end or to the fault that broke it off. -/
inductive Items
  | done (fault : Option Fault)
  | item (value : Node) (rest : Items)

/-- The members of an object, up to its end or to the fault that broke it off. A member whose value
is not wanted is passed over, and `passed` is the fault that this meets. -/
inductive Members
  | done (fault : Option Fault)
  | member (key : String) (value : Node) (passed : Option Fault) (rest : Members)

end

deriving instance Repr for Node, Items, Members

namespace Items

/-- A whole list. -/
def ofList : List Node → Items
  | [] => done none
  | value :: rest => item value (ofList rest)

/-- How many items there are. -/
def length : Items → Nat
  | done _ => 0
  | item _ rest => rest.length + 1

end Items

namespace Members

/-- A whole object. -/
def ofList : List (String × Node) → Members
  | [] => done none
  | (key, value) :: rest => member key value none (ofList rest)

/-- The value of the first member with a key. -/
def find? (key : String) : Members → Option Node
  | done _ => none
  | member other value _ rest => if key = other then some value else rest.find? key

end Members

namespace Node

/-- A whole list. -/
def ofItems (items : List Node) : Node :=
  list (Items.ofList items)

/-- A whole object. -/
def ofMembers (members : List (String × Node)) : Node :=
  object (Members.ofList members)

/-- A single as a value: what is no finite number cannot be written and becomes `null`. -/
def single (x : Single) : Node :=
  if x.isFinite then number (Number.ofSingle x) else null

/-- A natural number as a value. -/
def natural (n : Nat) : Node :=
  number (.whole n)

/-- The fault of a value in a place where another type is wanted; a value that could not be read
has its own fault. -/
def wrongType (wanted : String) : Node → Fault
  | null => .wrongType .null wanted
  | boolean value => .wrongType (.boolean value) wanted
  | number value => .wrongType (.number value) wanted
  | text value => .wrongType (.text value) wanted
  | list _ => .wrongType .list wanted
  | object _ => .wrongType .object wanted
  | broken fault => fault

end Node

mutual

/-- The value as a whole, every object sorted by key with the last of equal keys kept; or the first
fault in reading order. -/
def Node.settle : Node → Except Fault Node
  | .list items => return .ofItems (← items.settle)
  | .object members => return .ofMembers (← members.settle [])
  | .broken fault => throw fault
  | node => return node

/-- The settled items. -/
def Items.settle : Items → Except Fault (List Node)
  | .done none => return []
  | .done (some fault) => throw fault
  | .item value rest => return (← value.settle) :: (← rest.settle)

/-- The settled members, put into a sorted table. -/
def Members.settle : Members → Table Node → Except Fault (Table Node)
  | .done none, table => return table
  | .done (some fault), _ => throw fault
  | .member key value _ rest, table => do rest.settle (Table.insert key (← value.settle) table)

end

end Storybook.Data
