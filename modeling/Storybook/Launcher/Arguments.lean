/-
**Arguments of the command line.**

A run may be given its length in seconds, and touches that are made while it lasts. Arguments that
nothing is known of are remarked and passed over.

* `Numeral.read`: a natural number of 64 bits in writing;
* `Arguments.parse`: the arguments of a run.
-/

import Storybook.Clock.Span
import Storybook.Play.Event

namespace Storybook.Launcher

/-! ### Numbers -/

/-- Why a text is no natural number of 64 bits. -/
inductive NumberFault
  | empty
  | badDigit
  | tooLarge
deriving DecidableEq, Repr

/-- The wording of the reason. -/
def NumberFault.message : NumberFault → String
  | empty => "cannot parse integer from empty string"
  | badDigit => "invalid digit found in string"
  | tooLarge => "number too large to fit in target type"

/-- The number of a row of digits behind those of `total`, below a limit. -/
def readDigits (limit : Nat) : Nat → List Char → Except NumberFault Nat
  | total, [] => return total
  | total, c :: rest =>
    if ¬ c.isDigit then throw .badDigit
    else
      let total := total * 10 + (c.toNat - '0'.toNat)
      if total < limit then readDigits limit total rest else throw .tooLarge

/-- A natural number of 64 bits, which may have a plus sign. -/
def readNumber (text : String) : Except NumberFault Nat :=
  match text.toList with
  | [] => throw .empty
  | ['+'] => throw .badDigit
  | '+' :: digits => readDigits (powerOfTwo 64) 0 digits
  | digits => readDigits (powerOfTwo 64) 0 digits

/-! ### Arguments -/

/-- A touch that is made when its time has come. -/
structure ScriptedTouch where
  name : String
  time : Nat
deriving DecidableEq, Repr

/-- The arguments of a run, the touches in order of their times. -/
structure Arguments where
  seconds : Option Nat
  realtime : Bool
  touches : List ScriptedTouch
deriving DecidableEq, Repr

/-- What is wrong with the arguments. -/
inductive ArgumentError
  | noSeconds
  | badSeconds (text : String) (fault : NumberFault)
  | noTouch
  | badTouch (text : String)
  | badTime (text : String) (fault : NumberFault)
deriving DecidableEq, Repr

/-- The wording of what is wrong. -/
def ArgumentError.message : ArgumentError → String
  | noSeconds => "--seconds needs a value"
  | badSeconds text fault => s!"Bad --seconds value '{text}': {fault.message}"
  | noTouch => "--touch needs NAME@MS"
  | badTouch text => s!"Bad --touch value '{text}'"
  | badTime text fault => s!"Bad --touch time '{text}': {fault.message}"

/-- What stands before and behind the last `@` of a text. -/
def splitLast? (text : String) : Option (String × String) := do
  let letters := text.toList.reverse
  guard (letters.contains '@')
  let behind := letters.takeWhile (· ≠ '@')
  let before := (letters.dropWhile (· ≠ '@')).tail
  return (String.ofList before.reverse, String.ofList behind.reverse)

/-- The touch of a text with a name and a number of milliseconds. -/
def ScriptedTouch.read (text : String) : Except ArgumentError ScriptedTouch :=
  match splitLast? text with
  | none => throw (.badTouch text)
  | some (name, time) => do
    let millis ← (readNumber time).mapError (.badTime time)
    return ⟨name, Span.millis millis⟩

/-- The number of seconds of a text. -/
def readSeconds (text : String) : Except ArgumentError Nat :=
  (readNumber text).mapError (.badSeconds text)

namespace Arguments

/-- No arguments. -/
def none : Arguments :=
  ⟨.none, false, []⟩

/-- Adds the arguments of a command line, and remarks on those that nothing is known of. -/
def collect : Arguments → List Remark → List String → List Remark × Except ArgumentError Arguments
  | arguments, remarks, [] => (remarks, .ok arguments)
  | _, remarks, ["--seconds"] => (remarks, .error .noSeconds)
  | arguments, remarks, "--seconds" :: text :: rest =>
    match readSeconds text with
    | .ok seconds => collect { arguments with seconds := some seconds } remarks rest
    | .error fault => (remarks, .error fault)
  | arguments, remarks, "--realtime" :: rest =>
    collect { arguments with realtime := true } remarks rest
  | _, remarks, ["--touch"] => (remarks, .error .noTouch)
  | arguments, remarks, "--touch" :: text :: rest =>
    match ScriptedTouch.read text with
    | .ok touch =>
      collect { arguments with touches := arguments.touches ++ [touch] } remarks rest
    | .error fault => (remarks, .error fault)
  | arguments, remarks, other :: rest =>
    let text := s!"Unknown argument '{other}' ignored"
    collect arguments (remarks ++ [⟨.warn, .launcher, text⟩]) rest

/-- The same arguments, the touches in order of their times. Touches at one time stay in the order
in which they were given. -/
def sorted (arguments : Arguments) : Arguments :=
  { arguments with
    touches := arguments.touches.mergeSort fun first second => first.time ≤ second.time }

/-- The arguments of a command line, and remarks on those that nothing is known of. -/
def parse (words : List String) : List Remark × Except ArgumentError Arguments :=
  let (remarks, result) := collect none [] words
  (remarks, sorted <$> result)

end Arguments

end Storybook.Launcher
