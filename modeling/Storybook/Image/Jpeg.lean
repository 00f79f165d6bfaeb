/-
**The heads of JPEG files.**

A JPEG file is a row of segments, each behind a marker of two bytes. Its head reaches to the end of
the segment in front of the first scan. Of some faults a word is said, and of the other ones only
that there is one.

* `Jpeg.Fault`, `Jpeg.Fault.wording`: what may be wrong with a head, and what is said of it;
* `Jpeg.segment`: what the segment behind a marker tells of the frame;
* `Jpeg.size`: the size of a picture.
-/

import Storybook.Image.Size
import Storybook.Number.Power
import Storybook.Text.Quoted

namespace Storybook.Jpeg

/-! ### Faults -/

/-- What is wrong with the head of a file. -/
inductive Fault where
  /-- No word is said on what is wrong. -/
  | untold
  /-- The file ends inside of some bytes that belong together. -/
  | tooFew (expected found : Nat)
  /-- A component behind the fourth one. The first one has the place zero. -/
  | extraComponent (place : Nat)
  | horizontalTooLarge (factor : Nat)
  | horizontalNotPower (factor : Nat)
  | verticalTooLarge (factor : Nat)
  | verticalZero
  | quantizationTooLarge (index : Nat)
  | quantizationTooShort
  | huffmanTooShort
  | huffmanTooLong
  /-- Behind the last table the segment goes on. -/
  | huffmanRest
  | restartLength
  /-- The end of the picture in front of the first scan. -/
  | earlyEnd
  /-- A scan in front of the first frame. -/
  | noFrame
  /-- A segment of a type that cannot be read. -/
  | unreadable (name : String)
  /-- A segment of a known type is too short to hold its length. -/
  | shortKnown (length : Nat)
  /-- A segment of another type is too short to hold its length. -/
  | shortOther (length : Nat)
  | shortFirst
  | shortSecond
  | shortThirteenth
  | shortFourteenth
  | unknownColours (index : Nat)
deriving DecidableEq, Repr

namespace Fault

/-- The wording of a fault in the format. -/
def text? : Fault → Option String
  | untold => none
  | tooFew _ _ => none
  | extraComponent place =>
    s!"Unknown component id found,{place}, expected value between 1 and 4"
  | horizontalTooLarge factor => s!"Bogus Horizontal Sampling Factor {factor}"
  | horizontalNotPower factor =>
    s!"Horizontal sample is not a power of two({factor}) cannot decode"
  | verticalTooLarge factor => s!"Bogus Vertical Sampling Factor {factor}"
  | verticalZero => "Vertical sample is zero"
  | quantizationTooLarge index =>
    s!"Too large quantization number :{index}, expected value between 0 and 4"
  | quantizationTooShort => "Invalid DQT length. Length should be greater than 2"
  | huffmanTooShort => "Invalid Huffman length in image"
  | huffmanTooLong => "Encountered Huffman table with excessive length in DHT"
  | huffmanRest => "Bogus Huffman table definition"
  | restartLength => "Bad DRI length, Corrupt JPEG"
  | earlyEnd => "Premature End of image"
  | noFrame => "Error decoding SOF Marker, Number of components cannot be zero."
  | unreadable name =>
    "Parsing of the following header `" ++ name ++ "` is not supported,cannot continue"
  | shortKnown length => s!"Found a marker with invalid length:{length}\n"
  | shortOther length => s!"Found a marker with invalid length : {length}"
  | shortFirst => "Too small app1 length"
  | shortSecond => "Too small app2 segment"
  | shortThirteenth => "Too small APP13 length"
  | shortFourteenth => "Too short of a length for App14 segment"
  | unknownColours index => s!"Unknown Adobe colorspace {index}"

/-- What is said of a fault. The word on missing bytes stands on a line of its own. -/
def wording (fault : Fault) : String :=
  match fault, fault.text? with
  | tooFew expected found, _ =>
    s!"\n: I/O errors Not enough bytes, expected {expected} but found {found}\n"
  | _, some text => s!": Format error decoding Jpeg: {Text.quoted text}"
  | _, none => ""

end Fault

/-! ### Reading -/

/-- A reader of a row of bytes. -/
abbrev Reader (α : Type) : Type :=
  StateT (List UInt8) (Except Fault) α

/-- Stops at a fault unless a condition holds. -/
def require (condition : Bool) (fault : Fault) : Reader Unit :=
  if condition then return else throw fault

/-- The next bytes, which stay. -/
def peek (count : Nat) : Reader (List UInt8) := do
  let source ← get
  require (count ≤ source.length) (.tooFew count source.length)
  return source.take count

/-- The next bytes. -/
def take (count : Nat) : Reader (List UInt8) := do
  let bytes ← peek count
  modify (·.drop count)
  return bytes

/-- The number of the next byte. -/
def byte : Reader Nat := do
  return bigEndian (← take 1)

/-- The number of the next two bytes. -/
def word : Reader Nat := do
  return bigEndian (← take 2)

/-! ### Frames -/

/-- What the head of a frame tells: the size, and the numbers of the components. -/
structure Frame where
  size : ImageSize
  components : List Nat
deriving DecidableEq, Repr

/-- The number of the component at a place of a frame. -/
def component (place : Nat) : Reader Nat := do
  let bytes ← take 3
  let factors := (bytes.getD 1 0).toNat
  let table := (bytes.getD 2 0).toNat
  require (place < 4) (.extraComponent place)
  require (factors / 16 ≤ 4) (.horizontalTooLarge (factors / 16))
  require (factors % 16 ≤ 4) (.verticalTooLarge (factors % 16))
  require (table < 4) (.quantizationTooLarge table)
  require (factors / 16 ∈ [1, 2, 4]) (.horizontalNotPower (factors / 16))
  require (0 < factors % 16) .verticalZero
  return (bytes.getD 0 0).toNat

/-- The head of a frame. -/
def frame : Reader Frame := do
  let length ← word
  require ((← byte) = 8) .untold
  let height ← word
  let width ← word
  require (0 < width && 0 < height) .untold
  let count ← byte
  require (0 < count && length = 8 + 3 * count) .untold
  return ⟨⟨width, height⟩, ← (List.range count).mapM component⟩

/-! ### Scans -/

/-- The number of a component of a scan, which is one of the frame and none of the last ones. -/
def scanComponent (frame : Frame) (ids : List Nat) : Reader (List Nat) := do
  let id ← byte
  require (id ∉ ids) .untold
  let _ ← byte
  require (id ∈ frame.components) .untold
  return id :: ids

/-- The head of a scan, which gives the components that it holds. -/
def scan (frame : Option Frame) : Reader ImageSize := do
  let length ← word
  let count ← byte
  require (length = 6 + 2 * count && 0 < count && count < 5) .untold
  match frame with
  | none => throw .noFrame
  | some frame =>
    let _ ← (List.range count).foldlM (fun ids _ => scanComponent frame ids) []
    let first ← byte
    let last ← byte
    let bits ← byte
    require (first ≤ 63 && last ≤ 63 && bits / 16 ≤ 13 && bits % 16 ≤ 13) .untold
    return frame.size

/-! ### Tables -/

/-- Whether the codes of some lengths are enough. They are given out in order, and the one of ones
alone stays free. -/
def areCodes (counts : List UInt8) (length code : Nat) : Bool :=
  match counts with
  | [] => true
  | count :: counts =>
    code + count.toNat < powerOfTwo length &&
      areCodes counts (length + 1) (2 * (code + count.toNat))

/-- The Huffman tables of a segment by the number of bytes that are left in it. -/
def huffmanTables (left : Nat) : Reader Unit := do
  if _h : 16 < left then
    let head ← byte
    require (head / 16 < 2 && head % 16 < 4) .untold
    let counts ← take 16
    let total := (counts.map UInt8.toNat).foldl (· + ·) 0
    require (total ≤ 256) .huffmanTooLong
    require (total ≤ left - 17) .untold
    let symbols ← take total
    require (areCodes counts 1 0) .untold
    require (head / 16 = 1 || symbols.all (· ≤ 15)) .untold
    huffmanTables (left - 17 - total)
  else
    require (left = 0) .huffmanRest
termination_by left

/-- The quantization tables of a segment by the number of bytes that are left in it. -/
def quantizationTables (left : Nat) : Reader Unit := do
  if _h : 0 < left then
    let head ← byte
    let width := head / 16 + 1
    require (64 * width < left && width ≤ 2) .untold
    if width = 1 then
      let _ ← take 64
    else
      (List.range 64).forM fun _ => discard word
    require (head % 16 < 4) .untold
    quantizationTables (left - 1 - 64 * width)
  else
    return
termination_by left

/-! ### Segments -/

/-- The segment that says how a picture is meant to be shown. -/
def density : Reader Unit := do
  let length ← word
  require (2 ≤ length) (.shortKnown length)
  if 5 < length then
    let _ ← take 5

/-- The segment of a program for pictures, which may tell the meaning of the colours. -/
def colourNote : Reader Unit := do
  require (14 ≤ (← word)) .shortFourteenth
  if (← take 5) = "Adobe".toUTF8.toList then
    modify (·.drop 6)
    let colours ← byte
    require (colours ≤ 2) (.unknownColours colours)

/-- Whether the rest of a segment begins with a mark, which is taken. -/
def takesMark (left : Nat) (mark : List UInt8) : Reader Bool := do
  if left ≤ mark.length then
    return false
  else if (← peek mark.length) = mark then
    modify (·.drop mark.length)
    return true
  else
    return false

/-- The length of the mark of other notes. -/
def longMark : Nat :=
  29

/-- The segment with notes on how the picture was taken. -/
def exif : Reader Unit := do
  let length ← word
  require (2 ≤ length) .shortFirst
  let mark := "Exif\x00\x00".toUTF8.toList
  if ← takesMark (length - 2) mark then
    let _ ← take (length - 2 - mark.length)
  else if longMark < length - 2 then
    let _ ← peek longMark

/-- The segment with a profile of the colours, which comes in numbered parts. -/
def profile : Reader Unit := do
  let length ← word
  require (2 ≤ length) .shortSecond
  let mark := "ICC_PROFILE\x00".toUTF8.toList
  if 16 < length then
    if ← takesMark (length - 2) mark then
      let _ ← byte
      let _ ← byte
      let _ ← take (length - 4 - mark.length)

/-- A segment that is left out, and the fault if it cannot hold its length. -/
def leaveOut (fault : Nat → Fault) : Reader Unit := do
  let length ← word
  require (2 ≤ length) (fault length)

/-- What is known of the frame behind a segment. A file has one frame. -/
def segment (known : Option Frame) (marker : UInt8) : Reader (Option Frame) := do
  match marker.toNat with
  | 0xc0 | 0xc1 | 0xc2 =>
    require known.isNone .untold
    return some (← frame)
  | 0xc4 =>
    let length ← word
    require (2 ≤ length) .huffmanTooShort
    huffmanTables (length - 2)
  | 0xdb =>
    let length ← word
    require (2 ≤ length) .quantizationTooShort
    quantizationTables (length - 2)
  | 0xdd =>
    require ((← word) = 4) .restartLength
    let _ ← word
  | 0xd9 => throw .earlyEnd
  | 0xcc => throw (.unreadable "DAC")
  | 0xdc => throw (.unreadable "DNL")
  | 0xe0 => density
  | 0xe1 => exif
  | 0xe2 => profile
  | 0xed => leaveOut fun _ => .shortThirteenth
  | 0xee => colourNote
  | 0xfe | 0xd0 | 0xd1 | 0xd2 | 0xd3 | 0xd4 | 0xd5 | 0xd6 | 0xd7 | 0xd8 =>
    leaveOut .shortKnown
  | _ => leaveOut .shortOther
  return known

/-- Where the bytes behind a segment begin. A first application segment of six bytes takes another
one. -/
def segmentEnd (marker : UInt8) (source : List UInt8) : Nat :=
  let length := bigEndian (source.take 2)
  if marker = 0xe0 ∧ length = 6 then 7 else length

/-! ### Whole files -/

/-- The size of the frame in front of the first scan. Between segments there may be other bytes. -/
def firstScan (known : Option Frame) (source : List UInt8) : Except Fault ImageSize :=
  match source with
  | 0xff :: marker :: rest =>
    if marker = 0xff ∨ marker = 0 then
      firstScan known (marker :: rest)
    else if marker = 0xda then
      (scan known).run' rest
    else
      match (segment known marker).run' rest with
      | .ok known => firstScan known (rest.drop (segmentEnd marker rest))
      | .error fault => .error fault
  | _ :: rest => firstScan known rest
  | [] => .error (.tooFew 1 0)
termination_by source.length
decreasing_by
  all_goals simp only [List.length_cons, List.length_drop]
  all_goals omega

/-- The size of a JPEG picture. -/
def size : List UInt8 → Except Fault ImageSize
  | 0xff :: 0xd8 :: rest => firstScan none rest
  | _ :: _ :: _ => .error .untold
  | content => .error (.tooFew 2 content.length)

end Storybook.Jpeg
