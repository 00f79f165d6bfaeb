/-
**Paths.**

A path names a place in a file system, relative to the working directory, or absolutely if it
begins with a slash.

* `Path.join`, `Path.extension?`: paths as texts;
* `FileError.message`: why something cannot be done with a file;
* `textOfBytes`: the text that a file holds.
-/

namespace Storybook

/-! ### Paths -/

namespace Path

/-- The names of a path from left to right. An empty name stands for a slash without a name at its
side. -/
def components (path : String) : List String :=
  path.splitOn "/"

/-- Whether a path starts at the root. -/
def isAbsolute (path : String) : Bool :=
  path.toList.head? = some '/'

/-- How many bytes a name may have. -/
def longestName : Nat :=
  255

/-- How many bytes a path may have. -/
def longest : Nat :=
  4095

/-- The path of something inside a directory. -/
def join (directory name : String) : String :=
  if directory.isEmpty ∨ isAbsolute name then name
  else if directory.toList.getLast? = some '/' then directory ++ name
  else directory ++ "/" ++ name

/-- The last name of a path. -/
def fileName? (path : String) : Option String :=
  ((components path).filter fun name => name ≠ "" && name ≠ ".").getLast?

/-- What follows the last point of the last name; a point at its start does not count. -/
def extension? (path : String) : Option String := do
  let name ← fileName? path
  let letters := name.toList.reverse
  let stem := (letters.dropWhile (· ≠ '.')).tail
  guard (stem ≠ [])
  return String.ofList (letters.takeWhile (· ≠ '.')).reverse

end Path

/-! ### Errors -/

/-- Why something cannot be done with a file. -/
inductive FileError
  | notFound
  | alreadyThere
  | noDirectory
  | isDirectory
  /-- A name or a path is too long. -/
  | longName
  /-- A zero stands in a path. -/
  | zeroInName
  /-- The bytes of a file are no text. -/
  | noText
  /-- Any other reason, in the words of the system. -/
  | other (text : String)
deriving DecidableEq, Repr

/-- The wording of the reason. -/
def FileError.message : FileError → String
  | notFound => "No such file or directory (os error 2)"
  | alreadyThere => "File exists (os error 17)"
  | noDirectory => "Not a directory (os error 20)"
  | isDirectory => "Is a directory (os error 21)"
  | longName => "File name too long (os error 36)"
  | zeroInName => "file name contained an unexpected NUL byte"
  | noText => "stream did not contain valid UTF-8"
  | other text => text

/-- The text of a file. -/
def textOfBytes (bytes : ByteArray) : Except FileError String :=
  match String.fromUTF8? bytes with
  | some text => return text
  | none => throw .noText

end Storybook
