/-
**What the launcher asks of its host.**

The launcher reads and writes files, prints lines and waits. A host is whatever can do that: a
computer, or a sandbox that is a mere value.

* `Host`: the requests;
* `Host.log`: remarks as lines of the log, as far as a filter admits them;
* `Sandbox`: a host whose files and output are values.
-/

import Storybook.Files.Tree
import Storybook.Log.Filter

namespace Storybook.Launcher

/-- What a host can be asked for. -/
class Host (m : Type → Type) where
  /-- Whether a path names anything. -/
  isThere : String → m Bool
  /-- The content of a file. -/
  read : String → m (Except FileError ByteArray)
  /-- Writes a file anew. -/
  write : String → ByteArray → m (Except FileError Unit)
  /-- Makes a directory and those on the way to it, as far as they are missing. -/
  makeDirectories : String → m (Except FileError Unit)
  /-- Opens a file to which everything is written that is said from then on. -/
  openLog : String → m (Except FileError Unit)
  /-- The files inside a directory, by their paths in it. -/
  filesBelow : String → m (List String)
  /-- Prints a line. -/
  say : OutputLine → m Unit
  /-- Prints a text of one line or more where errors are printed. -/
  complain : String → m Unit
  /-- Waits for a number of nanoseconds. -/
  pause : Nat → m Unit

namespace Host

variable {m : Type → Type} [Monad m] [Host m]

/-- Prints a remark, if a filter admits it. -/
def log (filter : LogFilter) (remark : Remark) : m Unit :=
  if filter.admits remark then
    remark.lines.forM say
  else
    return ()

/-- Prints those of several remarks that a filter admits. -/
def logAll (filter : LogFilter) (remarks : List Remark) : m Unit :=
  remarks.forM (log filter)

/-- The text of a file. -/
def readText (path : String) : m (Except FileError String) :=
  return (← read path).bind textOfBytes

/-- A computation that may fail asks the host that it runs on. -/
instance {ε : Type} : Host (ExceptT ε m) where
  isThere path := ExceptT.lift (isThere path)
  read path := ExceptT.lift (read path)
  write path content := ExceptT.lift (write path content)
  makeDirectories path := ExceptT.lift (makeDirectories path)
  openLog path := ExceptT.lift (openLog path)
  filesBelow path := ExceptT.lift (filesBelow path)
  say line := ExceptT.lift (say line)
  complain line := ExceptT.lift (complain line)
  pause span := ExceptT.lift (pause span)

end Host

/-- A host as a value: its files, and what has been printed. -/
structure Sandbox where
  files : FileTree
  output : Array OutputLine
  complaints : Array String

namespace Sandbox

/-- Changes the files of a sandbox, which stay as they are if that fails. -/
def tryChange (change : FileTree → Except FileError FileTree) :
    StateM Sandbox (Except FileError Unit) := do
  let sandbox ← get
  match change sandbox.files with
  | .ok files =>
    set { sandbox with files }
    return .ok ()
  | .error fault => return .error fault

instance : Host (StateM Sandbox) where
  isThere path := return (← get).files.isThere path
  read path := return (← get).files.read path
  write path content := tryChange fun files => files.write path content
  makeDirectories path := modifyGet fun sandbox =>
    let (files, result) := sandbox.files.makeDirectories path
    (result, { sandbox with files })
  openLog path := tryChange fun files => files.openFile path
  filesBelow path := return (← get).files.filesBelow path
  say line := modify fun sandbox => { sandbox with output := sandbox.output.push line }
  complain text := modify fun sandbox =>
    { sandbox with complaints := sandbox.complaints ++ text.splitOn "\n" }
  pause _ := return ()

end Sandbox

end Storybook.Launcher
