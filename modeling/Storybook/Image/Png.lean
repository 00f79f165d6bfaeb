/-
**The heads of PNG files.**

A PNG file is a row of chunks, each with a type, some data and a checksum. Its head reaches to the
beginning of the picture data. A chunk whose type begins with a capital letter must be in order.
The other ones are left out if they are not, but for the headers of the frames of a moving picture.

What is kept of the chunks and one line of the picture share a limited room.

* `Png.Survey.add`: what a chunk adds to what is known of a picture;
* `Png.size?`: the size of a picture.
-/

import Storybook.Image.Size
import Storybook.Number.Power

namespace Storybook.Png

/-! ### Chunks -/

/-- The bytes that a PNG file begins with. -/
def signature : List UInt8 :=
  [0x89, 0x50, 0x4e, 0x47, 0x0d, 0x0a, 0x1a, 0x0a]

/-- One bit of the checksum. -/
def crcBit (sum : UInt32) : UInt32 :=
  if (sum &&& 1) = 1 then (sum >>> 1) ^^^ 0xedb88320 else sum >>> 1

/-- One byte of the checksum. -/
def crcByte (sum : UInt32) (byte : UInt8) : UInt32 :=
  (List.range 8).foldl (fun sum _ => crcBit sum) (sum ^^^ byte.toUInt32)

/-- The checksum of a row of bytes. -/
def crc (bytes : List UInt8) : Nat :=
  ((bytes.foldl crcByte 0xffffffff) ^^^ 0xffffffff).toNat

/-- The length of the data of the first chunk. -/
def dataLength (source : List UInt8) : Nat :=
  bigEndian (source.take 4)

/-- The type of the first chunk. -/
def chunkType (source : List UInt8) : List UInt8 :=
  (source.drop 4).take 4

/-- The data of the first chunk. -/
def chunkData (source : List UInt8) : List UInt8 :=
  (source.drop 8).take (dataLength source)

/-- Whether the checksum of the first chunk is right. -/
def isIntact (source : List UInt8) : Bool :=
  crc ((source.drop 4).take (4 + dataLength source)) =
    bigEndian ((source.drop (8 + dataLength source)).take 4)

/-- Whether a chunk has the type with a name. -/
def isNamed (type : List UInt8) (name : String) : Bool :=
  type = name.toUTF8.toList

/-- Whether a reader must know a chunk: its type begins with a capital letter. -/
def isCritical (type : List UInt8) : Bool :=
  match type with
  | first :: _ => (first &&& 0x20) = 0
  | [] => false

/-! ### The first chunk -/

/-- What the first chunk tells of a picture. -/
structure Head where
  size : ImageSize
  depth : UInt8
  colours : UInt8
deriving DecidableEq, Repr

/-- The bit depths that go with a type of colours. -/
def depths (colours : UInt8) : List UInt8 :=
  match colours.toNat with
  | 0 => [1, 2, 4, 8, 16]
  | 2 => [8, 16]
  | 3 => [1, 2, 4, 8]
  | 4 => [8, 16]
  | 6 => [8, 16]
  | _ => []

namespace Head

/-- How many numbers each pixel of the finished picture has. A transparent colour adds one, unless
all colours have it. -/
def samples (head : Head) (transparent : Bool) : Nat :=
  let further := if transparent then 1 else 0
  match head.colours.toNat with
  | 0 => 1 + further
  | 2 => 3 + further
  | 3 => 3 + further
  | 4 => 2
  | _ => 4

/-- How many bytes each pixel of the finished picture has. -/
def pixelBytes (head : Head) (transparent : Bool) : Nat :=
  if head.depth = 16 then 2 * head.samples transparent else head.samples transparent

/-- The number of bytes of the finished picture must fit into 64 bits. -/
def isCountable (head : Head) : Bool :=
  head.size.width * head.pixelBytes false * head.size.height < powerOfTwo 64

/-- The head of a picture by the data of its first chunk. -/
def ofData? (data : List UInt8) : Option Head :=
  match data.drop 8 with
  | [depth, colours, compression, filter, interlace] => do
    let size : ImageSize := ⟨bigEndian (data.take 4), bigEndian ((data.drop 4).take 4)⟩
    let head : Head := ⟨size, depth, colours⟩
    guard (0 < size.width ∧ 0 < size.height ∧ depth ∈ depths colours)
    guard (compression = 0 ∧ filter = 0 ∧ interlace ≤ 1 ∧ head.isCountable)
    return head
  | _ => none

end Head

/-! ### The other chunks -/

/-- The header of a frame of a moving picture. -/
structure Frame where
  number : Nat
  width : Nat
deriving DecidableEq, Repr

/-- Whether a part of a line lies inside of the line. -/
def fits (start length whole : Nat) : Bool :=
  0 < length && start + length ≤ whole

/-- The header of the frame behind another one. -/
def Frame.ofData? (head : Head) (last : Option Frame) (data : List UInt8) : Option Frame := do
  let word (place : Nat) : Nat := bigEndian ((data.drop (4 * place)).take 4)
  let frame : Frame := ⟨word 0, word 1⟩
  guard (data.length = 26 ∧ frame.number = (last.map (·.number + 1)).getD 0)
  guard (fits (word 3) frame.width head.size.width ∧ fits (word 4) (word 2) head.size.height)
  guard (data.getD 24 0 ≤ 2 ∧ data.getD 25 0 ≤ 1)
  return frame

/-- How many bytes may be kept: the chunks that are of use, and a line of the picture. -/
def wholeRoom : Nat :=
  512 * 1024 * 1024

/-- What is known of a picture. -/
structure Survey where
  head : Head
  /-- How many more bytes may be kept. -/
  room : Nat
  hasPalette : Bool
  isTransparent : Bool
  /-- Whether there are notes on how the picture was taken. -/
  hasNotes : Bool
  /-- The header of the last frame. -/
  frame : Option Frame
deriving DecidableEq, Repr

namespace Survey

/-- Nothing but the head is known. -/
def ofHead (head : Head) : Survey :=
  ⟨head, wholeRoom, false, false, false, none⟩

/-- Keeps a row of bytes. -/
def keep (survey : Survey) (data : List UInt8) : Option Survey := do
  guard (data.length ≤ survey.room)
  return { survey with room := survey.room - data.length }

/-- Whether some data give a transparent colour. -/
def tellsTransparency (survey : Survey) (data : List UInt8) : Bool :=
  match survey.head.colours.toNat with
  | 0 => 2 ≤ data.length
  | 2 => 6 ≤ data.length
  | 3 => survey.hasPalette
  | _ => false

/-- A palette, of which there may be one. -/
def addPalette (survey : Survey) (data : List UInt8) : Option Survey := do
  guard (!survey.hasPalette ∧ 3 ≤ data.length ∧ data.length ≤ 768)
  return { ← survey.keep data with hasPalette := true }

/-- A transparent colour. -/
def addTransparency (survey : Survey) (data : List UInt8) : Option Survey := do
  if survey.isTransparent ∨ data.isEmpty ∨ 256 < data.length then
    return survey
  else
    return { ← survey.keep data with isTransparent := survey.tellsTransparency data }

/-- The header of a frame. -/
def addFrame (survey : Survey) (data : List UInt8) : Option Survey := do
  return { survey with frame := some (← Frame.ofData? survey.head survey.frame data) }

/-- A chunk in order. -/
def add (survey : Survey) (type data : List UInt8) : Option Survey :=
  if isNamed type "PLTE" then survey.addPalette data
  else if isNamed type "tRNS" then survey.addTransparency data
  else if isNamed type "fcTL" then survey.addFrame data
  else if isNamed type "tEXt" ∨ isNamed type "zTXt" ∨ isNamed type "iTXt" then survey.keep data
  else if isNamed type "eXIf" ∧ !survey.hasNotes then do
    return { ← survey.keep data with hasNotes := true }
  else if isNamed type "sBIT" ∧ !survey.hasPalette ∧ data.length ≤ 4 then survey.keep data
  else if isCritical type then none
  else some survey

/-- The first chunk of a source. -/
def addChunk (survey : Survey) (source : List UInt8) : Option Survey :=
  let type := chunkType source
  if isNamed type "fcTL" ∧ dataLength source ≠ 26 then none
  else if isIntact source then survey.add type (chunkData source)
  else if isCritical type then none
  else some survey

/-- Whether the picture data begin. Those of a frame must have their header. -/
def reachesPicture (survey : Survey) (source : List UInt8) : Option Bool :=
  if source.length < 8 then none
  else if isNamed (chunkType source) "IDAT" then some true
  else if isNamed (chunkType source) "fdAT" then
    if survey.frame.isSome ∧ 4 ≤ dataLength source then some true else none
  else some false

/-- What is known of a picture where its data begin. -/
def upToPicture (survey : Survey) (source : List UInt8) : Option Survey :=
  match survey.reachesPicture source with
  | none => none
  | some true => some survey
  | some false =>
    if dataLength source + 12 ≤ source.length then
      match survey.addChunk source with
      | some survey => survey.upToPicture (source.drop (dataLength source + 12))
      | none => none
    else
      none
termination_by source.length
decreasing_by
  rw [List.length_drop]
  omega

/-- How many bytes a line of the finished picture has. -/
def lineBytes (survey : Survey) : Nat :=
  let width := (survey.frame.map Frame.width).getD survey.head.size.width
  width * survey.head.pixelBytes survey.isTransparent

end Survey

/-! ### Whole files -/

/-- The size of a PNG picture. -/
def size? (content : List UInt8) : Option ImageSize := do
  guard (signature.isPrefixOf content)
  let source := content.drop signature.length
  guard (isNamed (chunkType source) "IHDR" ∧ dataLength source = 13 ∧ 25 ≤ source.length)
  guard (isIntact source)
  let head ← Head.ofData? (chunkData source)
  let survey ← (Survey.ofHead head).upToPicture (source.drop 25)
  guard (survey.lineBytes ≤ survey.room)
  return head.size

end Storybook.Png
