/-
**The command line.**

Here the launcher runs on a computer: its files are the files of the working directory, and what it
prints goes to the terminal and into the log.

* `Terminal`: the computer as a host of the launcher;
* `main`: a run with the words of a command line.
-/

import Std.Time.DateTime
import Storybook.Launcher.Launch

namespace Storybook.Launcher

/-- What runs on a computer; the state is the log, once it is open. -/
abbrev Terminal := StateT (Option IO.FS.Handle) IO

namespace Terminal

/-- The reason that the system gives for a failure. -/
def faultOf : IO.Error → FileError
  | .noFileOrDirectory _ _ _ => .notFound
  | .alreadyExists _ _ _ => .alreadyThere
  | .inappropriateType _ 20 _ => .noDirectory
  | .inappropriateType _ 21 _ => .isDirectory
  | .invalidArgument _ 36 _ => .longName
  | error => .other error.toString

/-- Does something that may fail. -/
def attempt {α : Type} (act : IO α) : Terminal (Except FileError α) := do
  try
    return .ok (← act)
  catch error =>
    return .error (faultOf error)

/-- A number with at least two digits. -/
def twoDigits (n : Int) : String :=
  if 0 ≤ n ∧ n < 10 then s!"0{n}" else toString n

/-- The present time to the second. -/
def presentTime : IO String := do
  let stamp ← Std.Time.Timestamp.now
  let time := Std.Time.PlainDateTime.ofWallTime (Std.Time.WallTime.ofDuration stamp.val)
  let date := [time.year.toInt, time.month.val, time.day.val].map twoDigits
  let clock := [time.hour.val, time.minute.val, time.second.val].map twoDigits
  return String.intercalate "-" date ++ "T" ++ String.intercalate ":" clock ++ "Z"

/-- A line of output with the time of a remark. -/
def lineText : OutputLine → IO String
  | .remark remark => do
    let time ← presentTime
    let level := String.ofList (remark.level.name.toList.rightpad 5 ' ')
    return s!"[{time} {level} {remark.speaker.name}] {remark.text}"
  | .plain text => return text

/-- Prints a line, and writes it to the log if that is open. -/
def sayLine (line : OutputLine) : Terminal Unit := do
  let text ← lineText line
  IO.println text
  match ← get with
  | some log => log.putStrLn text
  | none => return ()

/-- Opens a file to which everything is written that is said from then on. -/
def openLogAt (path : String) : Terminal (Except FileError Unit) := do
  match ← attempt (IO.FS.Handle.mk path .append) with
  | .ok log =>
    set (some log)
    return .ok ()
  | .error fault => return .error fault

/-- The files inside a directory, by their paths in it. -/
def filesIn (directory : String) : IO (List String) := do
  let root ← IO.FS.realPath directory
  if ← root.isDir then
    let places ← root.walkDir
    let files ← places.toList.filterM fun place => return !(← place.isDir)
    return files.map fun place =>
      String.ofList (place.toString.toList.drop (root.toString.length + 1))
  else
    return [""]

instance : Host Terminal where
  isThere path := return (← attempt (IO.FS.realPath path)).isOk
  read path := attempt (IO.FS.readBinFile path)
  write path content := attempt (IO.FS.writeBinFile path content)
  makeDirectories path :=
    if path.isEmpty then return .ok () else attempt (IO.FS.createDirAll path)
  openLog := openLogAt
  filesBelow directory := return ((← attempt (filesIn directory)).toOption).getD []
  say := sayLine
  complain line := IO.eprintln line
  pause span := IO.sleep (span / 1000000).toUInt32

end Terminal

end Storybook.Launcher

/-- Plays a story. The exit code tells how that has ended. -/
def main (words : List String) : IO UInt32 := do
  let run : Storybook.Launcher.Terminal Storybook.Launcher.Ending := Storybook.Launcher.launch words
  let (ending, _) ← run.run none
  if let .aborted reason := ending then
    IO.eprintln reason
  return ending.code.toUInt32
