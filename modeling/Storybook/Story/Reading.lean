/-
**Reading a story.**

Every part of a story has a decoder. The decoder of an effect always answers: where an effect makes
no sense it is unresolved, with the name it was written with and the fault.

* `Effect.ofNode`: an effect of any value;
* `Sound.decode`, `Character.decode`, `Scene.decode`: the parts of a story;
* `Document.ofNode`: a story, whose start scene must be one of its scenes;
* `Document.ofJson`: a story from JSON text.
-/

import Storybook.Json.Reader
import Storybook.Story.Document
import Storybook.Story.Colour
import Storybook.Story.Millis

namespace Storybook.Story

open Storybook.Data

/-! ### Effects -/

namespace Direction

/-- The names that directions are known by. -/
def names : List String :=
  ["left", "right_to_left", "left_to_right", "right"]

/-- The direction of a name. -/
def ofName : String → Except Fault Direction
  | "left" => return left
  | "right_to_left" => return left
  | "right" => return right
  | "left_to_right" => return right
  | name => throw (.unknownName name names)

/-- Nothing: `null` or an object without members. -/
def nothing : Decoder Unit
  | .null => return ()
  | .object (.done none) => return ()
  | node => throw (node.wrongType "unit")

/-- A direction: its name, or an object that holds nothing under that name. -/
def decode : Decoder Direction
  | .text name => ofName name
  | .object (.member name value _ (.done none)) => do
    let direction ← ofName name
    nothing value
    return direction
  | .object _ => throw (.wrongObject "map with a single key")
  | node => throw (node.wrongType "string or map")

end Direction

namespace Effect

/-- The parameters of an effect: a record behind the effect's name. -/
def parameters {α : Type} (title : String) (fields : List (RecordField α)) (blank : α) :
    Decoder α :=
  Decode.record s!"struct variant Tagged::{title}" fields blank fun length =>
    .wrongLength length (Decode.counted fields.length "element" ++ " in sequence")

/-- The single parameter of most effects. -/
def speed (required : Bool) : RecordField Single :=
  ⟨"speed", required, fun node _ => Decode.single node⟩

/-- The parameters of a move. -/
structure Move where
  speed : Single
  direction : Direction
  pause : Option Nat

/-- The fields of a move. -/
def moveFields : List (RecordField Move) :=
  [⟨"speed", true, fun node move => return { move with speed := ← Decode.single node }⟩,
   ⟨"direction", false, fun node move => return { move with direction := ← Direction.decode node }⟩,
   ⟨"pause_in_ms", false, fun node move => return { move with pause := ← Millis.decode node }⟩]

/-- The effect of a name, with its parameters. -/
def ofName (name : String) (node : Node) : Except Fault Effect :=
  match name with
  | "audio" =>
    audio <$> parameters "Audio" [⟨"sound", true, fun node _ => Decode.text node⟩] "" node
  | "move" => do
    let read ← parameters "Move" moveFields ⟨0, .right, none⟩ node
    return move read.speed read.direction read.pause
  | "bounce" => bounce <$> parameters "Bounce" [speed false] 0 node
  | "transition" =>
    transition <$> parameters "Transition" [⟨"image", true, fun node _ => Decode.text node⟩] "" node
  | "fade_out" => fadeOut <$> parameters "FadeOut" [speed true] 0 node
  | "spin" => spin <$> parameters "Spin" [speed false] (Single.narrow 0.1) node
  | name => throw (.unknownName name names)

/-- The effect whose name stands in a value. -/
def ofTag (tag node : Node) : Except Fault Effect :=
  match tag with
  | .text name => ofName name node
  | tag => throw (tag.wrongType "variant identifier")

/-- An effect, written as an object with its name and its parameters or as the list of them. -/
def decode : Decoder Effect
  | .object members =>
    match members.find? "name" with
    | some tag => ofTag tag (.object members)
    | none => throw (.missingField "name")
  | .list (.item tag rest) => ofTag tag (.list rest)
  | .list (.done _) => throw (.missingField "name")
  | node => throw (node.wrongType "internally tagged enum Tagged")

/-- The name that a value gives to an effect; without a name it is empty. -/
def writtenName : Node → String
  | .object members =>
    match members.find? "name" with
    | some (.text name) => name
    | _ => ""
  | _ => ""

/-- The effect of any value. -/
def ofNode (node : Node) : Effect :=
  match decode node with
  | .ok effect => effect
  | .error fault => unresolved (writtenName node) fault

/-- An effect in a document: it is read as a whole before it is looked at. -/
def inDocument : Decoder Effect := fun node =>
  ofNode <$> node.settle

end Effect

/-! ### Records -/

/-- The fields of a style. -/
def Style.fields : List (RecordField Style) :=
  [⟨"distance", false, fun node style => return { style with distance := ← Decode.single node }⟩,
   ⟨"strength", false, fun node style => return { style with strength := ← Decode.single node }⟩,
   ⟨"color", false, fun node style => return { style with colour := ← Colour.decode node }⟩]

/-- A style. -/
def Style.decode : Decoder Style :=
  Decode.record "struct InteractiveStyle" Style.fields .standard

/-- The settings of a story, which hold its style. -/
def Style.inSettings : Decoder Style :=
  Decode.record "struct StorySettings"
    [⟨"interactive", false, fun node _ => Style.decode node⟩] .standard

/-- A splash. -/
def Splash.decode : Decoder Splash :=
  Decode.record "struct Splash"
    [⟨"image", true, fun node splash => return { splash with image := ← Decode.text node }⟩,
     ⟨"sound", true, fun node splash => return { splash with sound := ← Decode.text node }⟩]
    ⟨"", ""⟩

/-- The fields of a sound. -/
def Sound.fields : List (RecordField Sound) :=
  [⟨"id", false, fun node sound => return { sound with id := ← Decode.optional Decode.text node }⟩,
   ⟨"file", true, fun node sound => return { sound with file := ← Decode.text node }⟩,
   ⟨"volume", false, fun node sound => return { sound with volume := ← Decode.single node }⟩,
   ⟨"wait_in_ms", false, fun node sound => return { sound with wait := ← Millis.decode node }⟩,
   ⟨"next", false, fun node sound =>
      return { sound with next := ← Decode.optional Decode.text node }⟩]

/-- A sound. -/
def Sound.decode : Decoder Sound :=
  Decode.record "struct SoundSpec" Sound.fields ⟨none, "", 1, none, none⟩

/-- A position. -/
def Position.decode : Decoder Position :=
  Decode.record "struct Position"
    [⟨"x1", true, fun node place => return { place with x := ← Decode.single node }⟩,
     ⟨"y1", true, fun node place => return { place with y := ← Decode.single node }⟩]
    ⟨0, 0⟩

/-- A scale. -/
def Scale.decode : Decoder Scale :=
  Decode.record "struct Scale"
    [⟨"height", true, fun node scale => return { scale with height := ← Decode.single node }⟩,
     ⟨"width", true, fun node scale => return { scale with width := ← Decode.single node }⟩]
    ⟨0, 0⟩

/-- The settings of a character. -/
def CharacterSettings.decode : Decoder CharacterSettings :=
  Decode.record "struct CharacterSettings"
    [⟨"scale", false, fun node settings =>
        return { settings with scale := ← Decode.optional Scale.decode node }⟩,
     ⟨"gravity", false, fun node settings =>
        return { settings with gravity := ← Decode.single node }⟩,
     ⟨"flip", false, fun node settings => return { settings with flip := ← Decode.boolean node }⟩]
    .standard

/-- The effects of an action. -/
def Effect.inAction : Decoder (List Effect) :=
  Decode.record "struct ActionSpec"
    [⟨"effects", false, fun node _ => Decode.list Effect.inDocument node⟩] []

/-- The fields of a character. -/
def Character.fields : List (RecordField Character) :=
  [⟨"name", true, fun node character => return { character with name := ← Decode.text node }⟩,
   ⟨"image", true, fun node character => return { character with image := ← Decode.text node }⟩,
   ⟨"position", true, fun node character =>
      return { character with position := ← Position.decode node }⟩,
   ⟨"settings", false, fun node character =>
      return { character with settings := ← Decode.optional CharacterSettings.decode node }⟩,
   ⟨"actions", false, fun node character =>
      return { character with actions := ← Decode.table Effect.inAction node }⟩]

/-- A character. -/
def Character.decode : Decoder Character :=
  Decode.record "struct CharacterSpec" Character.fields ⟨"", "", ⟨0, 0⟩, none, []⟩

/-- The fields of a scene. -/
def Scene.fields : List (RecordField Scene) :=
  [⟨"background", true, fun node scene => return { scene with background := ← Decode.text node }⟩,
   ⟨"sounds", false, fun node scene =>
      return { scene with sounds := ← Decode.list Sound.decode node }⟩,
   ⟨"objects", false, fun node scene =>
      return { scene with characters := ← Decode.list Character.decode node }⟩]

/-- A scene. -/
def Scene.decode : Decoder Scene :=
  Decode.record "struct SceneSpec" Scene.fields ⟨"", [], []⟩

/-- The fields of a story. -/
def Document.fields : List (RecordField Document) :=
  [⟨"settings", false, fun node document =>
      return { document with style := ← Style.inSettings node }⟩,
   ⟨"splash", true, fun node document =>
      return { document with splash := ← Splash.decode node }⟩,
   ⟨"start", true, fun node document => return { document with start := ← Decode.text node }⟩,
   ⟨"scenes", true, fun node document =>
      return { document with scenes := ← Decode.table Scene.decode node }⟩]

/-- A story whose start scene is not looked for. -/
def Document.decode : Decoder Document :=
  Decode.record "struct StoryDocument" Document.fields ⟨.standard, ⟨"", ""⟩, "", []⟩

/-! ### Stories -/

/-- Why a text is no story. -/
inductive DocumentError
  | malformed (fault : Fault)
  | noStart (id : String)
deriving DecidableEq, Repr

/-- The wording of the reason. -/
def DocumentError.message : DocumentError → String
  | malformed fault => "Failed to parse story document: " ++ fault.message
  | noStart id => s!"Start scene '{id}' is not defined in the story"

namespace Document

/-- A story whose start scene is one of its scenes. -/
def checkStart (document : Document) : Except DocumentError Document :=
  if (document.scene? document.start).isSome then
    return document
  else
    throw (.noStart document.start)

/-- The story of a value. -/
def ofNode (node : Node) : Except DocumentError Document := do
  checkStart (← (decode node).mapError .malformed)

/-- The story of a JSON text. -/
def ofJson (text : String) : Except DocumentError Document := do
  checkStart (← (Json.decode decode text).mapError .malformed)

end Document

end Storybook.Story
