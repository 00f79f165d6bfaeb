/-
**From trees to expressions.**

The parts of a tree are gone through from the left to the right. A flag holds up to the end of the
group that it is set in. Without the flag for all scripts, a set may only hold the first 128
characters; with it, sets that need a table of all characters are not known.

* `SetTree.letters`: the set of characters of a set;
* `Tree.expression`: the expression of a tree;
* `Pattern.ofText`: the expression of a pattern, or what is said on a pattern that cannot be used.
-/

import Storybook.Pattern.Expression
import Storybook.Pattern.Reading

namespace Storybook.Pattern

/-! ### Flags -/

/-- The flags that change the meaning of parts. -/
structure Flags where
  anyCase : Bool
  lines : Bool
  wideDot : Bool
  unicode : Bool
  twoPartEnds : Bool
deriving DecidableEq, Repr

namespace Flags

/-- The flags at the start of a pattern. -/
def initial : Flags :=
  ⟨false, false, false, true, false⟩

/-- The flags behind a setting. -/
def apply (flags : Flags) (setting : Setting) : Flags :=
  match setting.flag with
  | .anyCase => { flags with anyCase := setting.value }
  | .lines => { flags with lines := setting.value }
  | .wideDot => { flags with wideDot := setting.value }
  | .unicode => { flags with unicode := setting.value }
  | .twoPartEnds => { flags with twoPartEnds := setting.value }
  | .short => flags
  | .loose => flags

/-- The flags behind some settings. -/
def applyAll (flags : Flags) (settings : List Setting) : Flags :=
  settings.foldl apply flags

end Flags

/-- Stops at a fault. -/
def faultAt {α : Type} (cause : Cause) (span : Span) : Except Fault α :=
  .error ⟨cause, span, none⟩

/-! ### Sets -/

/-- The digits. -/
def digits : Letters :=
  .range '0' '9'

/-- The small Latin letters. -/
def smallLetters : Letters :=
  .range 'a' 'z'

/-- The capital Latin letters. -/
def capitalLetters : Letters :=
  .range 'A' 'Z'

/-- The characters of a set with a name. -/
def NamedSet.letters : NamedSet → Letters
  | alnum => .unions [digits, capitalLetters, smallLetters]
  | alpha => .union capitalLetters smallLetters
  | ascii => .range '\x00' '\x7f'
  | blank => .union (.single '\t') (.single ' ')
  | cntrl => .union (.range '\x00' '\x1f') (.single '\x7f')
  | digit => digits
  | graph => .range '!' '~'
  | lower => smallLetters
  | print => .range ' ' '~'
  | punct => .unions [.range '!' '/', .range ':' '@', .range '[' '\x60', .range '\x7b' '~']
  | space => .union (.range '\t' '\r') (.single ' ')
  | upper => capitalLetters
  | word => .unions [digits, capitalLetters, .single '_', smallLetters]
  | xdigit => .unions [digits, .range 'A' 'F', .range 'a' 'f']

/-- The characters of a set with a letter among the first 128 ones. -/
def ShortSet.letters : ShortSet → Letters
  | digit => NamedSet.digit.letters
  | space => NamedSet.space.letters
  | word => NamedSet.word.letters

/-- A set with a letter. -/
def shortLetters (flags : Flags) (set : ShortSet) (negated : Bool) (span : Span) :
    Except Fault Letters :=
  if flags.unicode then faultAt .shortSetUnknown span
  else if negated then faultAt .invalidUtf8 span
  else .ok set.letters

/-- The plain form of the name of a property. -/
def plainName (name : String) : String :=
  let letters := name.toList.map Char.toLower
  let letters := if ['i', 's'].isPrefixOf letters then letters.drop 2 else letters
  String.ofList (letters.filter fun c => c.toNat < 0x80 && c ∉ [' ', '_', '-'])

/-- What is wrong with a property, none of which is known. Some short names are values. -/
def propertyFault (flags : Flags) (name : Option String) : Cause :=
  if !flags.unicode then .unicodeNotAllowed
  else if (name.map plainName).any (· ∈ ["cf", "sc", "lc"]) then .propertyValueUnknown
  else .propertyUnknown

/-- The character that a literal means. The number of a byte must be a character by itself. -/
def literalChar (flags : Flags) (literal : Literal) : Except Fault Char :=
  if !flags.unicode ∧ literal.isByte ∧ 0x80 ≤ literal.char.toNat then
    faultAt .invalidUtf8 literal.span
  else
    .ok literal.char

/-- The character that a literal in a set means. -/
def setChar (flags : Flags) (literal : Literal) : Except Fault Char := do
  let c ← literalChar flags literal
  if !flags.unicode ∧ 0x80 ≤ c.toNat then
    faultAt .unicodeNotAllowed literal.span
  else
    return c

/-- A set in both cases if the case does not matter, or all other characters. -/
def foldSet (flags : Flags) (letters : Letters) (isHollow negated : Bool) (span : Span) :
    Except Fault Letters :=
  if flags.unicode then
    if flags.anyCase ∧ !isHollow then faultAt .caseUnknown span
    else if negated then .ok (.complement letters)
    else .ok letters
  else if negated then faultAt .invalidUtf8 span
  else if flags.anyCase then .ok (.anyCase letters)
  else .ok letters

mutual

/-- Whether a set has no items. -/
def SetTree.isHollow : SetTree → Bool
  | .empty _ => true
  | .bracket negated body _ => !negated && body.isHollow
  | .union items _ => SetTree.areHollow items
  | .combined _ first second _ => first.isHollow && second.isHollow
  | _ => false

/-- Whether some sets have no items. -/
def SetTree.areHollow : List SetTree → Bool
  | [] => true
  | item :: rest => item.isHollow && SetTree.areHollow rest

end

mutual

/-- The set of characters of a set. -/
def SetTree.letters (flags : Flags) : SetTree → Except Fault Letters
  | .empty _ => .ok .none
  | .literal letter => do return .single (← setChar flags letter)
  | .range first last _ => do return .range (← setChar flags first) (← setChar flags last)
  | .named name negated span => foldSet flags name.letters false negated span
  | .short letters negated span => shortLetters flags letters negated span
  | .property name span => faultAt (propertyFault flags name) span
  | .bracket negated body span => do
    foldSet flags (← body.letters flags) body.isHollow negated span
  | .union items _ => SetTree.unionLetters flags items
  | .combined operation first second _ => do
    let firstLetters ← first.letters flags
    let secondLetters ← second.letters flags
    let secondLetters ← foldSet flags secondLetters second.isHollow false second.span
    let firstLetters ← foldSet flags firstLetters first.isHollow false first.span
    return .combined operation firstLetters secondLetters

/-- The set of the characters of some sets. -/
def SetTree.unionLetters (flags : Flags) : List SetTree → Except Fault Letters
  | [] => .ok .none
  | item :: rest => do return .union (← item.letters flags) (← SetTree.unionLetters flags rest)

end

/-! ### Parts -/

/-- The expression of a literal. Without all scripts only Latin letters have two cases. -/
def literalExpression (flags : Flags) (literal : Literal) : Except Fault Expression := do
  let c ← literalChar flags literal
  if !flags.anyCase then return .letter (.single c)
  else if flags.unicode then faultAt .caseUnknown literal.span
  else return .letter (.anyCase (.single c))

/-- The expression of a dot. -/
def dotExpression (flags : Flags) (span : Span) : Except Fault Expression :=
  if !flags.unicode then faultAt .invalidUtf8 span
  else if flags.wideDot then .ok (.letter (.complement .none))
  else if flags.twoPartEnds then
    .ok (.letter (.complement (.union (.single '\n') (.single '\r'))))
  else .ok (.letter (.complement (.single '\n')))

/-- The edge that an anchor means. -/
def Anchor.edge (flags : Flags) : Anchor → Edge
  | lineStart => if flags.lines then .lineStart flags.twoPartEnds else .textStart
  | lineEnd => if flags.lines then .lineEnd flags.twoPartEnds else .textEnd
  | textStart => .textStart
  | textEnd => .textEnd
  | wordEdge => .word .either flags.unicode
  | noWordEdge => .word .neither flags.unicode
  | wordStart => .word .start flags.unicode
  | wordEnd => .word .stop flags.unicode
  | wordStartHalf => .word .startHalf flags.unicode
  | wordEndHalf => .word .stopHalf flags.unicode

/-- What goes through a tree and keeps the flags. -/
abbrev Passage (α : Type) : Type :=
  StateT Flags (Except Fault) α

mutual

/-- The expression of a tree. -/
def Tree.expression : Tree → Passage Expression
  | .empty _ => return .empty
  | .settings changes _ => do
    modify (·.applyAll changes)
    return .empty
  | .literal letter => do literalExpression (← get) letter
  | .dot span => do dotExpression (← get) span
  | .anchor place _ => do return .edge (place.edge (← get))
  | .short letters negated span => do
    return .letter (← shortLetters (← get) letters negated span)
  | .property name span => do faultAt (propertyFault (← get) name) span
  | .bracket negated body span => do
    let flags ← get
    return .letter (← foldSet flags (← body.letters flags) body.isHollow negated span)
  | .repeated least most body _ => do return (← body.expression).times least most
  | .group isCaptured changes body _ => do
    let flags ← get
    set (flags.applyAll changes)
    let inside ← body.expression
    set flags
    return if isCaptured then .group inside else inside
  | .row parts _ => Tree.rowExpression parts
  | .choice branches _ => Tree.choiceExpression branches

/-- The expression of some trees in a row. -/
def Tree.rowExpression : List Tree → Passage Expression
  | [] => return .empty
  | [tree] => tree.expression
  | tree :: rest => do return .row (← tree.expression) (← Tree.rowExpression rest)

/-- The expression of a choice between some trees. -/
def Tree.choiceExpression : List Tree → Passage Expression
  | [] => return .empty
  | [tree] => tree.expression
  | tree :: rest => do return .choice (← tree.expression) (← Tree.choiceExpression rest)

end

/-! ### Whole patterns -/

/-- How many bytes the states of a pattern may take. -/
def largestWeight : Nat :=
  10 * 1024 * 1024

/-- The expression of a pattern, or the first fault. -/
def expressionOf (text : String) : Except Fault Expression := do
  (← Tree.ofText text).expression.run' .initial

/-- The expression of a pattern, or what is said on a pattern that cannot be used. -/
def ofText (text : String) : Except String Expression :=
  match expressionOf text with
  | .error fault => throw (fault.message text)
  | .ok expression =>
    if largestWeight < expression.weight then
      throw s!"Compiled regex exceeds size limit of {largestWeight} bytes."
    else if expression.isWide then
      throw "error building NFA"
    else
      return expression

end Storybook.Pattern
