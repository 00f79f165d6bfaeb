/-
**Which remarks are logged.**

A filter is a list of directives in writing: a level, or a part of the program with its level. The
directive with the longest name that a speaker's name begins with decides about its remarks, and a
remark that no directive speaks of is not logged. Behind a slash there may be a pattern, which every
remark must have in its text.

* `LogFilter.ofText`: the filter of a text, and what is wrong with the text;
* `LogFilter.admits`: whether a remark is logged;
* `Remark.lines`: a remark as lines of the log.
-/

import Storybook.Pattern.Meaning
import Storybook.Play.Event
import Storybook.Text.Blank
import Storybook.Text.Plain

namespace Storybook

/-! ### Levels -/

/-- The rank of a level: the less, the more urgent. -/
def Level.rank : Level → Nat
  | error => 1
  | warn => 2
  | info => 3
  | debug => 4

/-- The name of a level in the log. -/
def Level.name : Level → String
  | error => "ERROR"
  | warn => "WARN"
  | info => "INFO"
  | debug => "DEBUG"

/-- The name that a part of the program has in the log. -/
def Speaker.name : Speaker → String
  | player => "fable_core::player"
  | scene => "fable_core::scene"
  | character => "fable_core::character"
  | trigger => "fable_core::trigger"
  | soundChain => "fable_core::sound_chain"
  | settings => "fable_shared::config"
  | launcher => "fable_desktop"
  | loader => "fable_desktop::loader"
  | renderer => "fable_desktop::renderer"

/-- The names of limits in order of their rank; below the first one nothing is logged. -/
def limitNames : List String :=
  ["off", "error", "warn", "info", "debug", "trace"]

/-- The highest limit. -/
def highestLimit : Nat :=
  5

/-- The rank up to which a limit admits remarks. The case of Latin letters does not matter. -/
def limit? (name : String) : Option Nat :=
  limitNames.idxOf? (name.map Char.toLower)

/-! ### Filters -/

/-- A limit for the speakers whose names begin with a text, or for all. -/
structure Directive where
  name : Option String
  limit : Nat
deriving DecidableEq, Repr

/-- The directives, the most general ones first, and what a part of every remark must match. -/
structure LogFilter where
  directives : List Directive
  pattern : Option Pattern.Expression
deriving DecidableEq, Repr

namespace Directive

/-- How much of a name a directive speaks of. -/
def weight (directive : Directive) : Nat :=
  (directive.name.map String.utf8ByteSize).getD 0

/-- Whether a directive speaks of a speaker. -/
def speaksOf (directive : Directive) (speaker : Speaker) : Bool :=
  match directive.name with
  | some name => name.toList.isPrefixOf speaker.name.toList
  | none => true

/-- Adds a directive, in place of one with the same name. -/
def insert (directive : Directive) : List Directive → List Directive
  | [] => [directive]
  | other :: rest =>
    if other.name = directive.name then directive :: rest else other :: insert directive rest

end Directive

namespace LogFilter

/-- A text without blanks at its ends. -/
def trim (text : String) : String :=
  let behind := text.toList.dropWhile Text.isBlank
  String.ofList (behind.reverse.dropWhile Text.isBlank).reverse

/-- What is wrong with a part of a filter. -/
def invalid (part : String) : String :=
  s!"invalid logging spec '{part}'"

/-- The directive of a text. -/
def directiveOf (text : String) : Except String Directive :=
  match text.splitOn "=" with
  | [name] =>
    match limit? name with
    | some limit => return ⟨none, limit⟩
    | none => return ⟨some name, highestLimit⟩
  | [name, limitName] =>
    let limitName := trim limitName
    if limitName.isEmpty then
      return ⟨some name, highestLimit⟩
    else
      match limit? limitName with
      | some limit => return ⟨some name, limit⟩
      | none => throw (invalid limitName)
  | _ => throw (invalid text)

/-- Adds the directive of a text, or what is wrong with it. -/
def add : List Directive × List String → String → List Directive × List String
  | (directives, faults), text =>
    match directiveOf text with
    | .ok directive => (directive.insert directives, faults)
    | .error fault => (directives, faults ++ [fault])

/-- The directives of a list of texts between commas, and what is wrong with it. -/
def directivesOf (text : String) : List Directive × List String :=
  (((text.splitOn ",").map trim).filter (· ≠ "")).foldl add ([], [])

/-- The filter with some directives: by itself a filter admits errors. -/
def ofDirectives (directives : List Directive) (pattern : Option Pattern.Expression) :
    LogFilter :=
  let directives := if directives.isEmpty then [⟨none, Level.error.rank⟩] else directives
  ⟨directives.mergeSort fun first second => first.weight ≤ second.weight, pattern⟩

/-- The filter of a text, and what is wrong with the text. A pattern that cannot be used is left
out. -/
def ofText (text : String) : LogFilter × List String :=
  match text.splitOn "/" with
  | [list] =>
    let (directives, faults) := directivesOf list
    (ofDirectives directives none, faults)
  | [list, pattern] =>
    let (directives, faults) := directivesOf list
    match Pattern.ofText pattern with
    | .ok pattern => (ofDirectives directives (some pattern), faults)
    | .error fault =>
      (ofDirectives directives none, faults ++ [s!"invalid regex filter - {fault}"])
  | _ => (ofDirectives [] none, [invalid text ++ " (too many '/'s)"])

/-- Whether a remark is logged. -/
def admits (filter : LogFilter) (remark : Remark) : Bool :=
  match filter.directives.reverse.find? fun directive => directive.speaksOf remark.speaker with
  | some directive =>
    remark.level.rank ≤ directive.limit && filter.pattern.all (·.occursIn remark.text)
  | none => false

end LogFilter

/-! ### Lines -/

/-- A line of output: the first line of a remark, or a plain one. -/
inductive OutputLine
  | remark (remark : Remark)
  | plain (text : String)
deriving DecidableEq, Repr

/-- A remark as lines of the log in plain form; all but the first one are indented. -/
def Remark.lines (remark : Remark) : List OutputLine :=
  match (Text.plain (remark.text.replace "\n" "\n    ")).splitOn "\n" with
  | [] => []
  | first :: rest => .remark { remark with text := first } :: rest.map .plain

end Storybook
