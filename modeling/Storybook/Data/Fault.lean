/-
**What can be wrong with a written document.**

The first group of faults breaks off the reading of the text; the others are found when what was
read does not have the form that is wanted.

* `Fault.message`: the wording of a fault.
-/

import Storybook.Data.Number
import Storybook.Text.Quoted

namespace Storybook.Data

/-- What stands in a place where something else is wanted. -/
inductive Found
  | null
  | boolean (value : Bool)
  | number (value : Number)
  | text (value : String)
  | list
  | object
deriving DecidableEq, Repr

namespace Found

/-- The wording of what was found. -/
def description : Found → String
  | null => "null"
  | boolean value => s!"boolean `{value}`"
  | number (.whole value) => s!"integer `{value}`"
  | number (.real value) => s!"floating point `{Double.pointText value}`"
  | text value => "string " ++ Text.quoted value
  | list => "sequence"
  | object => "map"

end Found

/-- A fault of a document. -/
inductive Fault
  /-- The text ends where a value must stand. -/
  | endInValue
  /-- The text ends inside an object. -/
  | endInObject
  /-- The text ends inside a list. -/
  | endInList
  /-- The text ends inside a quoted text. -/
  | endInText
  /-- Something that is no value stands where a value must. -/
  | noValue
  /-- A bare word is none of the three known ones. -/
  | badWord
  /-- No colon follows a key. -/
  | noColon
  /-- Neither a comma nor the end follows a member of an object. -/
  | noObjectEnd
  /-- Neither a comma nor the end follows an item of a list. -/
  | noListEnd
  /-- A key is no quoted text. -/
  | badKey
  /-- A comma stands before the end. -/
  | trailingComma
  /-- Something follows where nothing more is wanted. -/
  | trailingCharacters
  /-- A number is too large for a double. -/
  | numberRange
  /-- The digits of a number are not well formed. -/
  | badNumber
  /-- A backslash begins no escape. -/
  | badEscape
  /-- One half of a surrogate pair stands where the other must. -/
  | wrongSurrogate
  /-- The second half of a surrogate pair is missing. -/
  | halfSurrogate
  /-- A control character stands in a quoted text. -/
  | controlCharacter
  /-- Lists and objects are nested too deeply. -/
  | tooDeep
  /-- A value of another type is wanted. -/
  | wrongType (found : Found) (wanted : String)
  /-- An object of another shape is wanted. -/
  | wrongObject (wanted : String)
  /-- A name is none of the known ones. -/
  | unknownName (name : String) (known : List String)
  /-- A field is missing. -/
  | missingField (name : String)
  /-- A field is given twice. -/
  | duplicateField (name : String)
  /-- A list has too few or too many items. -/
  | wrongLength (length : Nat) (wanted : String)
  /-- A value has none of the forms that are accepted. -/
  | noForm (wanted : String)
  /-- A text is no colour. -/
  | badColour (text : String)
  /-- A number is no number of milliseconds. -/
  | badMillis (value : Double)
deriving DecidableEq, Repr

namespace Fault

/-- The wording of a fault. -/
def message : Fault → String
  | endInValue => "EOF while parsing a value"
  | endInObject => "EOF while parsing an object"
  | endInList => "EOF while parsing a list"
  | endInText => "EOF while parsing a string"
  | noValue => "expected value"
  | badWord => "expected ident"
  | noColon => "expected `:`"
  | noObjectEnd => "expected `,` or `\x7d`"
  | noListEnd => "expected `,` or `]`"
  | badKey => "key must be a string"
  | trailingComma => "trailing comma"
  | trailingCharacters => "trailing characters"
  | numberRange => "number out of range"
  | badNumber => "invalid number"
  | badEscape => "invalid escape"
  | wrongSurrogate => "lone leading surrogate in hex escape"
  | halfSurrogate => "unexpected end of hex escape"
  | controlCharacter => "control character (\\u0000-\\u001F) found while parsing a string"
  | tooDeep => "recursion limit exceeded"
  | wrongType found wanted => s!"invalid type: {found.description}, expected {wanted}"
  | wrongObject wanted => s!"invalid value: map, expected {wanted}"
  | unknownName name known =>
    s!"unknown variant `{name}`, expected one of " ++
      String.intercalate ", " (known.map fun one => s!"`{one}`")
  | missingField name => s!"missing field `{name}`"
  | duplicateField name => s!"duplicate field `{name}`"
  | wrongLength length wanted => s!"invalid length {length}, expected {wanted}"
  | noForm wanted => s!"data did not match any variant of untagged enum {wanted}"
  | badColour text => s!"invalid color '{text}'"
  | badMillis value => s!"invalid duration {Double.text value} ms"

end Fault

end Storybook.Data
