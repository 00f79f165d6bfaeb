/-
**The tokens of TOML text.**

A text is cut into marks, words and quoted texts; comments are left out. A word is a run of
characters that mean nothing by themselves: a key with its dots, a number, a truth value or a time.
Every token knows the blanks in front of it, since some tokens must stand close together.

* `lexemes?`: the tokens of a text, if it can be cut into tokens.
-/

import Storybook.Json.Token

namespace Storybook.Toml

/-- A pair of brackets. -/
inductive Bracket
  | square
  | curly
deriving DecidableEq, Repr

/-- A token of TOML text. -/
inductive Token
  | lineEnd
  | comma
  | equals
  | opening (bracket : Bracket)
  | closing (bracket : Bracket)
  | word (letters : List Char)
  /-- A quoted text on one line, which may be a key. -/
  | text (value : String)
  /-- A quoted text between triple quotes. -/
  | block (value : String)
deriving DecidableEq, Repr

/-- A token with the blanks in front of it. -/
structure Lexeme where
  gap : List Char
  token : Token
deriving DecidableEq, Repr

/-- The blanks within a line. -/
def isBlank (c : Char) : Bool :=
  c = ' ' || c = '\t'

/-- The controls that stand neither in a comment nor in a quoted text. -/
def isControl (c : Char) : Bool :=
  (c.toNat < 0x20 && c ≠ '\t') || c.toNat = 0x7f

/-- The characters that a word is made of. -/
def isLetter (c : Char) : Bool :=
  !isBlank c && !"\n\r#=,[]\x7b\x7d\"\x27".toList.contains c

/-- Whether a carriage return stands before something else than a line feed. -/
def hasLoneReturn : List Char → Bool
  | [] => false
  | ['\r'] => true
  | '\r' :: '\n' :: rest => hasLoneReturn rest
  | c :: rest => c = '\r' || hasLoneReturn rest

/-- What follows a comment. -/
def skipComment : List Char → Option (List Char)
  | [] => some []
  | '\n' :: rest => some ('\n' :: rest)
  | '\r' :: rest => some ('\r' :: rest)
  | c :: rest => if isControl c then none else skipComment rest

/-! ### Quoted texts -/

/-- The character of an escape by one letter. -/
def letterEscape? : Char → Option Char
  | '"' => some '"'
  | '\\' => some '\\'
  | 'b' => some '\x08'
  | 'e' => some '\x1b'
  | 'f' => some '\x0c'
  | 'n' => some '\n'
  | 'r' => some '\r'
  | 't' => some '\t'
  | _ => none

/-- The character of an escape by its number. -/
def numberEscape? (digits : List Char) : Option Char := do
  let number ← Json.hexNumber? digits
  guard number.isValidChar
  return Char.ofNat number

/-- A text whose characters are given last first. -/
def ofReversed (shown : List Char) : String :=
  String.ofList shown.reverse

/-- The text behind an opening double quote, and the rest behind the closing one. -/
def scanText (shown : List Char) : List Char → Option (String × List Char)
  | [] => none
  | '"' :: rest => some (ofReversed shown, rest)
  | '\\' :: 'x' :: a :: b :: rest => do scanText ((← numberEscape? [a, b]) :: shown) rest
  | '\\' :: 'u' :: a :: b :: c :: d :: rest => do
    scanText ((← numberEscape? [a, b, c, d]) :: shown) rest
  | '\\' :: 'U' :: a :: b :: c :: d :: e :: f :: g :: h :: rest => do
    scanText ((← numberEscape? [a, b, c, d, e, f, g, h]) :: shown) rest
  | '\\' :: letter :: rest => do scanText ((← letterEscape? letter) :: shown) rest
  | c :: rest => if isControl c then none else scanText (c :: shown) rest

/-- The text behind an opening apostrophe, and the rest behind the closing one. -/
def scanLiteral (shown : List Char) : List Char → Option (String × List Char)
  | [] => none
  | '\x27' :: rest => some (ofReversed shown, rest)
  | c :: rest => if isControl c then none else scanLiteral (c :: shown) rest

/-- The characters that a text between triple quotes may hold. -/
def isBlockChar (c : Char) : Bool :=
  c = '\n' || c = '\r' || !isControl c

/-- Blanks and line ends are dropped behind a backslash at the end of a line. -/
def dropFold (source : List Char) : List Char :=
  source.dropWhile fun c => isBlank c || c = '\n' || c = '\r'

/-- Whether a backslash stands at the end of a line. -/
def foldsLine (source : List Char) : Bool :=
  match source.dropWhile isBlank with
  | c :: _ => c = '\n' || c = '\r'
  | [] => false

theorem dropFold_length (source : List Char) : (dropFold source).length ≤ source.length :=
  (List.dropWhile_sublist _).length_le

/-- The text behind three double quotes, and the rest behind the closing three. Up to two more
quotes stand at the end of the text itself. -/
def scanBlock (shown : List Char) (source : List Char) : Option (String × List Char) :=
  match source with
  | [] => none
  | '"' :: '"' :: '"' :: '"' :: '"' :: rest => some (ofReversed ('"' :: '"' :: shown), rest)
  | '"' :: '"' :: '"' :: '"' :: rest => some (ofReversed ('"' :: shown), rest)
  | '"' :: '"' :: '"' :: rest => some (ofReversed shown, rest)
  | '\\' :: 'x' :: a :: b :: rest => do scanBlock ((← numberEscape? [a, b]) :: shown) rest
  | '\\' :: 'u' :: a :: b :: c :: d :: rest => do
    scanBlock ((← numberEscape? [a, b, c, d]) :: shown) rest
  | '\\' :: 'U' :: a :: b :: c :: d :: e :: f :: g :: h :: rest => do
    scanBlock ((← numberEscape? [a, b, c, d, e, f, g, h]) :: shown) rest
  | '\\' :: letter :: rest =>
    if foldsLine (letter :: rest) then
      scanBlock shown (dropFold (letter :: rest))
    else do
      scanBlock ((← letterEscape? letter) :: shown) rest
  | c :: rest => if isBlockChar c then scanBlock (c :: shown) rest else none
termination_by source.length
decreasing_by
  all_goals simp only [List.length_cons]
  all_goals first
    | omega
    | exact Nat.lt_succ_of_le (dropFold_length _)

/-- The text behind three apostrophes, and the rest behind the closing three. -/
def scanLiteralBlock (shown : List Char) : List Char → Option (String × List Char)
  | [] => none
  | '\x27' :: '\x27' :: '\x27' :: '\x27' :: '\x27' :: rest =>
    some (ofReversed ('\x27' :: '\x27' :: shown), rest)
  | '\x27' :: '\x27' :: '\x27' :: '\x27' :: rest => some (ofReversed ('\x27' :: shown), rest)
  | '\x27' :: '\x27' :: '\x27' :: rest => some (ofReversed shown, rest)
  | c :: rest => if isBlockChar c then scanLiteralBlock (c :: shown) rest else none

/-- A text between triple quotes does not begin with the line end behind the opening ones. -/
def dropLineEnd : List Char → List Char
  | '\n' :: rest => rest
  | '\r' :: '\n' :: rest => rest
  | rest => rest

/-- A quoted text at the start of a source, and the rest. -/
def scanQuoted : List Char → Option (Token × List Char)
  | '"' :: '"' :: '"' :: rest => do
    let (value, rest) ← scanBlock [] (dropLineEnd rest)
    return (.block value, rest)
  | '\x27' :: '\x27' :: '\x27' :: rest => do
    let (value, rest) ← scanLiteralBlock [] (dropLineEnd rest)
    return (.block value, rest)
  | '"' :: rest => do
    let (value, rest) ← scanText [] rest
    return (.text value, rest)
  | '\x27' :: rest => do
    let (value, rest) ← scanLiteral [] rest
    return (.text value, rest)
  | _ => none

/-! ### Whole texts -/

/-- A word at the start of a source, and the rest. -/
def scanWord (source : List Char) : Option (Token × List Char) :=
  match source.takeWhile isLetter with
  | [] => none
  | letters => some (.word letters, source.dropWhile isLetter)

/-- The token at the start of a source, and the rest. -/
def scanToken : List Char → Option (Token × List Char)
  | '\n' :: rest => some (.lineEnd, rest)
  | '\r' :: '\n' :: rest => some (.lineEnd, rest)
  | ',' :: rest => some (.comma, rest)
  | '=' :: rest => some (.equals, rest)
  | '[' :: rest => some (.opening .square, rest)
  | ']' :: rest => some (.closing .square, rest)
  | '\x7b' :: rest => some (.opening .curly, rest)
  | '\x7d' :: rest => some (.closing .curly, rest)
  | '"' :: rest => scanQuoted ('"' :: rest)
  | '\x27' :: rest => scanQuoted ('\x27' :: rest)
  | source => scanWord source

theorem scanText_length {shown source rest : List Char} {value : String}
    (found : scanText shown source = some (value, rest)) : rest.length < source.length := by
  fun_induction scanText shown source <;> simp_all [Option.bind_eq_some_iff] <;> grind

theorem scanLiteral_length {shown source rest : List Char} {value : String}
    (found : scanLiteral shown source = some (value, rest)) : rest.length < source.length := by
  fun_induction scanLiteral shown source <;> simp_all <;> omega

theorem scanBlock_length {shown source rest : List Char} {value : String}
    (found : scanBlock shown source = some (value, rest)) : rest.length < source.length := by
  fun_induction scanBlock shown source <;> simp_all [Option.bind_eq_some_iff] <;>
    grind [dropFold_length]

theorem scanLiteralBlock_length {shown source rest : List Char} {value : String}
    (found : scanLiteralBlock shown source = some (value, rest)) :
    rest.length < source.length := by
  fun_induction scanLiteralBlock shown source <;> simp_all <;> omega

theorem dropLineEnd_length (source : List Char) :
    (dropLineEnd source).length ≤ source.length := by
  fun_cases dropLineEnd source <;> simp <;> omega

theorem scanQuoted_length {source rest : List Char} {token : Token}
    (found : scanQuoted source = some (token, rest)) : rest.length < source.length := by
  unfold scanQuoted at found
  split at found <;>
    simp only [Option.bind_eq_bind, Option.bind_eq_some_iff, Option.pure_def, Option.some.injEq,
      Prod.mk.injEq, Prod.exists, reduceCtorEq] at found
  · obtain ⟨value, after, read, -, rfl⟩ := found
    have shorter := scanBlock_length read
    grind [dropLineEnd_length]
  · obtain ⟨value, after, read, -, rfl⟩ := found
    have shorter := scanLiteralBlock_length read
    grind [dropLineEnd_length]
  · obtain ⟨value, after, read, -, rfl⟩ := found
    have shorter := scanText_length read
    grind
  · obtain ⟨value, after, read, -, rfl⟩ := found
    have shorter := scanLiteral_length read
    grind

theorem scanWord_length {source rest : List Char} {token : Token}
    (found : scanWord source = some (token, rest)) : rest.length < source.length := by
  have whole := congrArg List.length (List.takeWhile_append_dropWhile (p := isLetter) (l := source))
  rw [List.length_append] at whole
  unfold scanWord at found
  split at found
  · simp at found
  · rename_i letters nonempty
    have := List.length_pos_iff.mpr nonempty
    simp only [Option.some.injEq, Prod.mk.injEq] at found
    rw [← found.2]
    omega

theorem scanToken_length {source rest : List Char} {token : Token}
    (found : scanToken source = some (token, rest)) : rest.length < source.length := by
  unfold scanToken at found
  split at found
  case h_9 => exact scanQuoted_length found
  case h_10 => exact scanQuoted_length found
  case h_11 => exact scanWord_length found
  all_goals
    simp only [Option.some.injEq, Prod.mk.injEq] at found
    rw [← found.2]
    simp only [List.length_cons]
    omega

theorem skipComment_length {source rest : List Char} (found : skipComment source = some rest) :
    rest.length ≤ source.length := by
  fun_induction skipComment source <;> simp_all <;> grind

/-- The tokens of a source, behind blanks that come last first. -/
def lexemesFrom (gap : List Char) (source : List Char) : Option (List Lexeme) :=
  match source with
  | [] => some []
  | '#' :: rest =>
    match _found : skipComment rest with
    | some after => lexemesFrom [] after
    | none => none
  | c :: rest =>
    if isBlank c then
      lexemesFrom (c :: gap) rest
    else
      match _found : scanToken (c :: rest) with
      | some (token, after) => (⟨gap.reverse, token⟩ :: ·) <$> lexemesFrom [] after
      | none => none
termination_by source.length
decreasing_by
  · exact Nat.lt_succ_of_le (skipComment_length ‹_›)
  · simp
  · exact scanToken_length ‹_›

/-- The tokens of a text. A mark of the byte order may stand at its start. -/
def lexemes? (text : String) : Option (List Lexeme) :=
  let source := text.toList
  if hasLoneReturn source then
    none
  else
    lexemesFrom [] (if source.head? = some '\uFEFF' then source.tail else source)

end Storybook.Toml
