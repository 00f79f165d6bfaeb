/-
**File systems as values.**

A file tree is the state of a file system as a value. Operations that fail leave it as it was, but
for directories that were made on the way.

* `FileTree.read`, `FileTree.filesBelow`: what there is;
* `FileTree.makeDirectory`, `FileTree.makeDirectories`, `FileTree.openFile`, `FileTree.write`: changes.
-/

import Storybook.Files.Path

namespace Storybook

/-! ### Trees -/

/-- What stands at a place of a file system. -/
inductive Entry
  | file (content : ByteArray)
  | directory

/-- A place in a file system: the names on the way from the root. -/
abbrev Location := List String

/-- Files and directories by their place. The root is always there. -/
structure FileTree where
  entries : List (Location × Entry)

namespace FileTree

/-- The place of the working directory. -/
def working : Location :=
  ["work"]

/-- A working directory with nothing in it. -/
def empty : FileTree :=
  ⟨[(working, .directory)]⟩

/-- What stands at a place. -/
def entry? (tree : FileTree) (location : Location) : Option Entry :=
  if location = [] then some .directory else tree.entries.lookup location

/-- Puts something at a place. -/
def put (tree : FileTree) (location : Location) (entry : Entry) : FileTree :=
  ⟨(location, entry) :: tree.entries.filter fun (other, _) => other ≠ location⟩

/-- Goes one name further on a path. -/
def follow (tree : FileTree) (location : Location) (name : String) : Except FileError Location :=
  match tree.entry? location with
  | none => throw .notFound
  | some (.file _) => throw .noDirectory
  | some .directory =>
    if name = "" ∨ name = "." then return location
    else if name = ".." then return location.dropLast
    else if Path.longestName < name.utf8ByteSize then throw .longName
    else return location ++ [name]

/-- Where a path starts. -/
def start (path : String) : Location :=
  if Path.isAbsolute path then [] else working

/-- Whether a path can be looked up at all. -/
def checkPath (path : String) : Except FileError Unit :=
  if path.contains '\x00' then throw .zeroInName
  else if path.isEmpty then throw .notFound
  else if Path.longest < path.utf8ByteSize then throw .longName
  else return ()

/-- The place that a path names. Whether anything stands there is another question. -/
def locate (tree : FileTree) (path : String) : Except FileError Location := do
  checkPath path
  (Path.components path).foldlM tree.follow (start path)

/-- What a path names. -/
def find (tree : FileTree) (path : String) : Except FileError (Location × Entry) := do
  let location ← tree.locate path
  match tree.entry? location with
  | some entry => return (location, entry)
  | none => throw .notFound

/-- Whether a path names anything. -/
def isThere (tree : FileTree) (path : String) : Bool :=
  (tree.find path).isOk

/-- The content of a file. -/
def read (tree : FileTree) (path : String) : Except FileError ByteArray := do
  match ← tree.find path with
  | (_, .file content) => return content
  | (_, .directory) => throw .isDirectory

/-- Whether a directory stands at the end of some names. -/
def isDirectory (tree : FileTree) (origin : Location) (names : List String) : Bool :=
  match names.foldlM tree.follow origin with
  | .ok location =>
    match tree.entry? location with
    | some .directory => true
    | _ => false
  | .error _ => false

/-- Makes the directory at the end of some names. The directory that it is in must be there, and
nothing may stand in its place. -/
def makeDirectory (tree : FileTree) (origin : Location) (names : List String) :
    Except FileError FileTree := do
  let home ← names.dropLast.foldlM tree.follow origin
  let name := names.getLast?.getD "."
  let location ← tree.follow home name
  if name = "." ∨ name = ".." ∨ (tree.entry? location).isSome then throw .alreadyThere
  return tree.put location .directory

/-- Makes the directory at the end of some names, and those on the way to it as far as they are
missing. `way` holds the names on the way to it, without those that stay in place. -/
def makeEach (tree : FileTree) (origin : Location) (way names : List String) :
    FileTree × Except FileError Unit :=
  match tree.makeDirectory origin names with
  | .ok tree => (tree, .ok ())
  | .error .alreadyThere =>
    (tree, if tree.isDirectory origin names then .ok () else .error .alreadyThere)
  | .error .notFound =>
    if _nested : way ≠ [] then
      match tree.makeEach origin way.dropLast way with
      | (tree, .error fault) => (tree, .error fault)
      | (tree, .ok ()) =>
        match tree.makeDirectory origin names with
        | .ok tree => (tree, .ok ())
        | .error fault => (tree, if tree.isDirectory origin names then .ok () else .error fault)
    else
      (tree, .error .notFound)
  | .error fault => (tree, .error fault)
termination_by way.length
decreasing_by
  have := List.length_pos_iff.mpr _nested
  rw [List.length_dropLast]
  omega

/-- Makes a directory and those on the way to it, as far as they are missing. -/
def makeDirectories (tree : FileTree) (path : String) : FileTree × Except FileError Unit :=
  let names := (Path.components path).filter (· ≠ "")
  match checkPath path with
  | .ok () => tree.makeEach (start path) (names.filter (· ≠ ".")).dropLast names
  | .error fault => (tree, if path.isEmpty then .ok () else .error fault)

/-- Opens a file for writing at its end; it is made if it is missing. -/
def openFile (tree : FileTree) (path : String) : Except FileError FileTree := do
  let location ← tree.locate path
  match tree.entry? location with
  | none => return tree.put location (.file .empty)
  | some (.file _) => return tree
  | some .directory => throw .isDirectory

/-- Writes a file anew. -/
def write (tree : FileTree) (path : String) (content : ByteArray) : Except FileError FileTree := do
  let tree ← tree.openFile path
  return tree.put (← tree.locate path) (.file content)

/-- The files inside a directory, by their paths in it. A file is all that is inside itself. -/
def filesBelow (tree : FileTree) (path : String) : List String :=
  match tree.find path with
  | .error _ => []
  | .ok (_, .file _) => [""]
  | .ok (location, .directory) =>
    tree.entries.filterMap fun (other, entry) =>
      match entry with
      | .file _ =>
        if location.isPrefixOf other then
          some (String.intercalate "/" (other.drop location.length))
        else
          none
      | .directory => none

end FileTree

end Storybook
