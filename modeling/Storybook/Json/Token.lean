/-
**The tokens of JSON text.**

A text is cut into marks, words, numbers and quoted texts. A token may carry a fault: one that only
matters when the token is read, or one that breaks off the text there whether it is read or passed
over. What is no token at all is `other`, and its fault depends on the place where it stands.

* `tokens`: the tokens of a text.
-/

import Storybook.Json.Numeral
import Storybook.Data.Node

namespace Storybook.Json

open Storybook.Data

/-- A token that holds something: what is read there, and the fault that passing over it meets. -/
structure Lexeme (α : Type) where
  content : Except Fault α
  passed : Option Fault

namespace Lexeme

/-- A token without faults. -/
def sound {α : Type} (content : α) : Lexeme α :=
  ⟨.ok content, none⟩

/-- A token that breaks off the text. -/
def cut {α : Type} (read passed : Fault) : Lexeme α :=
  ⟨.error read, some passed⟩

end Lexeme

/-- A pair of brackets. -/
inductive Bracket
  | list
  | object
deriving DecidableEq, Repr

/-- A token of JSON text. -/
inductive Token
  | opening (bracket : Bracket)
  | closing (bracket : Bracket)
  | comma
  | colon
  | text (lexeme : Lexeme String)
  /-- A word or a number. -/
  | plain (lexeme : Lexeme Node)
  | other

/-- The characters that separate tokens. -/
def isBlank (c : Char) : Bool :=
  c = ' ' || c = '\n' || c = '\t' || c = '\r'

/-! ### Words and numbers -/

/-- The word whose letters are `letters`, at the start of a text; and the rest. -/
def scanWord (value : Node) : List Char → List Char → Lexeme Node × List Char
  | [], rest => (.sound value, rest)
  | _ :: _, [] => (.cut .endInValue .endInValue, [])
  | letter :: letters, c :: rest =>
    if c = letter then scanWord value letters rest else (.cut .badWord .badWord, [])

/-- The number at the start of a text behind its sign; and the rest. -/
def scanNumber (negative : Bool) (source : List Char) : Lexeme Node × List Char :=
  match Numeral.scan negative source with
  | .ok (numeral, rest) => (⟨Node.number <$> numeral.value, none⟩, rest)
  | .error (read, passed) => (.cut read passed, [])

/-! ### Quoted texts -/

/-- The value of a hexadecimal digit. -/
def hexValue? (c : Char) : Option Nat :=
  if '0' ≤ c ∧ c ≤ '9' then some (c.toNat - '0'.toNat)
  else if 'a' ≤ c ∧ c ≤ 'f' then some (c.toNat - 'a'.toNat + 10)
  else if 'A' ≤ c ∧ c ≤ 'F' then some (c.toNat - 'A'.toNat + 10)
  else none

/-- The number of four hexadecimal digits. -/
def hexNumber? (digits : List Char) : Option Nat :=
  digits.foldlM (fun total c => (total * 16 + ·) <$> hexValue? c) 0

/-- The character of an escape by one letter. -/
def letterEscape? : Char → Option Char
  | '"' => some '"'
  | '\\' => some '\\'
  | '/' => some '/'
  | 'b' => some '\x08'
  | 'f' => some '\x0c'
  | 'n' => some '\n'
  | 'r' => some '\r'
  | 't' => some '\t'
  | _ => none

/-- What has been read of a quoted text: its characters, last first; the first fault that only
matters when the text is read; and the first half of a surrogate pair that waits for the second. -/
structure Draft where
  shown : List Char := []
  fault : Option Fault := none
  half : Option Nat := none

namespace Draft

/-- Notes a fault, if none was noted before. -/
def note (draft : Draft) (fault : Fault) : Draft :=
  { draft with fault := draft.fault <|> some fault, half := none }

/-- What follows is no second half: a first half that waits for one is a fault. -/
def settle (draft : Draft) : Draft :=
  if draft.half.isSome then draft.note .halfSurrogate else draft

/-- One more character. -/
def push (draft : Draft) (c : Char) : Draft :=
  { draft.settle with shown := c :: draft.settle.shown }

/-- One more code unit of sixteen bits. -/
def pushUnit (draft : Draft) (unit : Nat) : Draft :=
  let high := 0xD800 ≤ unit ∧ unit < 0xDC00
  let low := 0xDC00 ≤ unit ∧ unit < 0xE000
  match draft.half with
  | some first =>
    if low then
      let c := Char.ofNat (0x10000 + (first - 0xD800) * 0x400 + (unit - 0xDC00))
      { draft with shown := c :: draft.shown, half := none }
    else
      draft.note .wrongSurrogate
  | none =>
    if high then { draft with half := some unit }
    else if low then draft.note .wrongSurrogate
    else draft.push (Char.ofNat unit)

/-- The text that is broken off by a fault. -/
def cut (draft : Draft) (fault : Fault) : Lexeme String :=
  .cut (draft.fault.getD fault) fault

/-- The text at its closing quote. -/
def close (draft : Draft) : Lexeme String :=
  let draft := draft.settle
  match draft.fault with
  | some fault => ⟨.error fault, none⟩
  | none => .sound (String.ofList draft.shown.reverse)

end Draft

/-- The fault of an escape without four hexadecimal digits: the text ends in it when fewer than
four bytes are left. -/
def hexFault (rest : List Char) : Fault :=
  if (String.ofList rest).utf8ByteSize < 4 then .endInText else .badEscape

/-- The text behind an opening quote, and the rest behind the closing one. -/
def scanText : Draft → List Char → Lexeme String × List Char
  | draft, [] => (draft.cut .endInText, [])
  | draft, '"' :: rest => (draft.close, rest)
  | draft, ['\\'] => (draft.cut .endInText, [])
  | draft, '\\' :: 'u' :: a :: b :: c :: d :: rest =>
    match hexNumber? [a, b, c, d] with
    | some unit => scanText (draft.pushUnit unit) rest
    | none => (draft.cut .badEscape, [])
  | draft, '\\' :: 'u' :: rest => (draft.cut (hexFault rest), [])
  | draft, '\\' :: letter :: rest =>
    match letterEscape? letter with
    | some c => scanText (draft.push c) rest
    | none => (draft.settle.cut .badEscape, [])
  | draft, c :: rest =>
    if c.toNat < 0x20 then (draft.settle.cut .controlCharacter, [])
    else scanText (draft.push c) rest

/-! ### Whole texts -/

theorem scanWord_length (value : Node) (letters source : List Char) :
    (scanWord value letters source).2.length ≤ source.length := by
  fun_induction scanWord value letters source <;> simp_all <;> omega

theorem scanNumber_length (negative : Bool) (source : List Char) :
    (scanNumber negative source).2.length ≤ (source.dropWhile Char.isDigit).length := by
  unfold scanNumber
  split
  · rename_i found
    exact Numeral.scan_length found
  · simp

theorem scanText_length (draft : Draft) (source : List Char) :
    (scanText draft source).2.length ≤ source.length := by
  fun_induction scanText draft source <;> simp_all <;> omega

/-- The tokens of a text, behind those of `done`, which come last first. A token that breaks off
the text is the last one. -/
def tokensFrom (done : List Token) (source : List Char) : List Token :=
  match source with
  | [] => done.reverse
  | c :: rest =>
    if isBlank c then tokensFrom done rest
    else match c with
    | '[' => tokensFrom (.opening .list :: done) rest
    | ']' => tokensFrom (.closing .list :: done) rest
    | '\x7b' => tokensFrom (.opening .object :: done) rest
    | '\x7d' => tokensFrom (.closing .object :: done) rest
    | ',' => tokensFrom (.comma :: done) rest
    | ':' => tokensFrom (.colon :: done) rest
    | '"' => tokensFrom (.text (scanText {} rest).1 :: done) (scanText {} rest).2
    | 'n' =>
      let scanned := scanWord .null ['u', 'l', 'l'] rest
      tokensFrom (.plain scanned.1 :: done) scanned.2
    | 't' =>
      let scanned := scanWord (.boolean true) ['r', 'u', 'e'] rest
      tokensFrom (.plain scanned.1 :: done) scanned.2
    | 'f' =>
      let scanned := scanWord (.boolean false) ['a', 'l', 's', 'e'] rest
      tokensFrom (.plain scanned.1 :: done) scanned.2
    | '-' => tokensFrom (.plain (scanNumber true rest).1 :: done) (scanNumber true rest).2
    | _ =>
      if c.isDigit then
        let scanned := scanNumber false (c :: rest)
        tokensFrom (.plain scanned.1 :: done) scanned.2
      else
        (Token.other :: done).reverse
termination_by source.length
decreasing_by
  all_goals simp only [List.length_cons]
  all_goals first
    | omega
    | exact Nat.lt_succ_of_le (scanText_length _ _)
    | exact Nat.lt_succ_of_le (scanWord_length _ _ _)
    | exact Nat.lt_succ_of_le
        (Nat.le_trans (scanNumber_length _ _) (Numeral.dropDigits_length _))
    | exact Nat.lt_succ_of_le (Nat.le_trans (scanNumber_length _ _)
        (by simp_all [Numeral.dropDigits_length]))

/-- The tokens of a text. -/
def tokens (source : List Char) : List Token :=
  tokensFrom [] source

end Storybook.Json
