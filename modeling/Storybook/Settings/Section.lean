/-
**The sections of the settings.**

The settings are divided into sections. Each has a value for every field that is not given.

* `SystemSettings`, `StageSettings`, `SceneOptions`, `AudioSettings`, `RunSettings`: what the
  sections hold;
* `Section`: a section with its name, its decoder and its standard value;
* `Sections`: all of them.
-/

import Storybook.Data.Decode
import Storybook.Play.Scene

namespace Storybook

open Storybook.Data

/-- Where things are found, and what is logged. -/
structure SystemSettings where
  storyPath : String
  assetsPath : String
  logPath : String
  logLevel : String
deriving DecidableEq, Repr

/-- The size of the stage, and the speed of the play. -/
structure StageSettings where
  width : Single
  height : Single
  frameRate : Nat
deriving DecidableEq, Repr

/-- The sounds of the play. -/
structure AudioSettings where
  /-- How many milliseconds a clip lasts of which nothing else is known. -/
  clipMillis : Nat
deriving DecidableEq, Repr

/-- How long a story is played, and how it is reported. -/
structure RunSettings where
  seconds : Nat
  /-- Whether a frame takes its time. -/
  realtime : Bool
  /-- The number of frames from one report to the next. -/
  reportEvery : Nat
deriving DecidableEq, Repr

/-- What all sections hold. -/
structure Sections where
  system : SystemSettings
  stage : StageSettings
  scene : SceneOptions
  audio : AudioSettings
  run : RunSettings
deriving DecidableEq, Repr

/-- A section of the settings. -/
structure Section (α : Type) where
  name : String
  decode : Decoder α
  standard : α

namespace Section

/-- A section that is a record of optional fields. -/
def ofFields {α : Type} (name wanted : String) (fields : List (RecordField α)) (standard : α) :
    Section α :=
  ⟨name, Decode.record wanted fields standard, standard⟩

/-- A field that need not be given. -/
def field {α β : Type} (name : String) (decode : Decoder β) (put : β → α → α) : RecordField α :=
  ⟨name, false, fun node record => return put (← decode node) record⟩

/-- A natural number of 32 bits. -/
def word32 : Decoder Nat :=
  Decode.natural (powerOfTwo 32) "u32"

/-- A natural number of 64 bits. -/
def word64 : Decoder Nat :=
  Decode.natural (powerOfTwo 64) "u64"

/-- Where things are found, and what is logged. -/
def system : Section SystemSettings :=
  ofFields "system" "struct SystemConfig"
    [field "story_path" Decode.text fun path settings => { settings with storyPath := path },
     field "assets_path" Decode.text fun path settings => { settings with assetsPath := path },
     field "log_path" Decode.text fun path settings => { settings with logPath := path },
     field "log_level" Decode.text fun level settings => { settings with logLevel := level }]
    ⟨"story/story.json", "story/", "logs/", "info"⟩

/-- The size of the stage, and the speed of the play. -/
def stage : Section StageSettings :=
  ofFields "stage" "struct StageConfig"
    [field "width" Decode.single fun width settings => { settings with width },
     field "height" Decode.single fun height settings => { settings with height },
     field "frame_rate" word32 fun rate settings => { settings with frameRate := rate }]
    ⟨1024, 1024, 60⟩

/-- What can be set for the scenes of a story. -/
def scene : Section SceneOptions :=
  ofFields "scene" "struct SceneConfig"
    [field "retrigger_character" (Decode.optional Decode.text) fun name options =>
       { options with retriggerCharacter := name },
     field "retrigger_interval_ms" word64 fun millis options =>
       { options with retriggerMillis := millis },
     field "bounce_offset" Decode.single fun offset options =>
       { options with bounceOffset := offset }]
    .standard

/-- The sounds of the play. -/
def audio : Section AudioSettings :=
  ofFields "audio" "struct AudioConfig"
    [field "default_clip_ms" word64 fun millis _ => ⟨millis⟩]
    ⟨3000⟩

/-- How long a story is played, and how it is reported. -/
def run : Section RunSettings :=
  ofFields "run" "struct RunConfig"
    [field "seconds" word64 fun seconds settings => { settings with seconds },
     field "realtime" Decode.boolean fun realtime settings => { settings with realtime },
     field "report_every" word64 fun frames settings => { settings with reportEvery := frames }]
    ⟨10, false, 60⟩

end Section

end Storybook
