/-
**Colours in writing.**

A colour is a number, or a text with hexadecimal digits behind any number of `#`, then of `0x`, then
of `0X`. A plus sign in front of the digits is accepted.

* `Colour.ofText?`: the number of a colour text;
* `Colour.decode`: a colour in a document.
-/

import Storybook.Data.Decode
import Storybook.Json.Token

namespace Storybook.Story.Colour

open Storybook.Data

/-- One more than the largest colour. -/
def limit : Nat :=
  powerOfTwo 32

/-- A text without the `#` at its start. -/
def dropHashes : List Char → List Char :=
  List.dropWhile (· = '#')

/-- A text without the marks at its start that are made of a zero and a letter. -/
def dropMarks (letter : Char) : List Char → List Char
  | '0' :: c :: rest => if c = letter then dropMarks letter rest else '0' :: c :: rest
  | rest => rest

/-- The number of a row of hexadecimal digits, if there is one and it is below the limit. -/
def digits? (digits : List Char) : Option Nat := do
  guard (digits ≠ [])
  let value ← Json.hexNumber? digits
  guard (value < limit)
  return value

/-- The number behind an optional plus sign. -/
def signed? : List Char → Option Nat
  | '+' :: rest => digits? rest
  | rest => digits? rest

/-- The number of a colour text. -/
def ofText? (text : String) : Option Nat :=
  signed? (dropMarks 'X' (dropMarks 'x' (dropHashes text.toList)))

/-- A colour in a document. -/
def decode : Decoder Nat := fun node => do
  match ← node.settle with
  | .number (.whole value) =>
    if 0 ≤ value ∧ value < limit then return value.toNat else throw (.noForm "RawColor")
  | .text text =>
    match ofText? text with
    | some value => return value
    | none => throw (.badColour text)
  | _ => throw (.noForm "RawColor")

end Storybook.Story.Colour
