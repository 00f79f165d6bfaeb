/-
**Tables.**

A table lists entries under keys, sorted by key, with one entry to a key. Keys are compared by code
points, which is the order of their UTF-8 bytes.

* `Table.insert`: puts an entry into a table, in place of one with the same key;
* `Table.find?`: the entry under a key.
-/

namespace Storybook

/-- Entries under keys. -/
abbrev Table (α : Type) :=
  List (String × α)

namespace Table

variable {α : Type}

/-- Puts an entry into a table. An entry with the same key gives way. -/
def insert (key : String) (value : α) : Table α → Table α
  | [] => [(key, value)]
  | (other, kept) :: rest =>
    if key = other then
      (key, value) :: rest
    else if key < other then
      (key, value) :: (other, kept) :: rest
    else
      (other, kept) :: insert key value rest

/-- The entry under a key. -/
def find? (table : Table α) (key : String) : Option α :=
  table.lookup key

end Table

end Storybook
