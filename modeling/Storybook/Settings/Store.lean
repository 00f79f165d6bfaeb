/-
**The settings of a program.**

The settings are read once, from TOML text. A text that cannot be read counts as an empty one, and a
section that does not fit is replaced as a whole by its standard; both are remarked. Before anything
is read, every section has its standard value.

* `Settings.readText`, `Settings.readAt`: reading settings from a text or from a file;
* `Settings.get`, `Settings.all`: a section, and all of them.
-/

import Storybook.Files.Path
import Storybook.Settings.Section
import Storybook.Toml.Reader

namespace Storybook

open Storybook.Data

/-- The settings: nothing before they are read, and the sections by name afterwards. -/
structure Settings where
  sections : Option (List (String × Node))

/-- Why settings cannot be read. -/
inductive SettingsError
  | alreadyRead
  | unreadable (fault : FileError)
deriving DecidableEq, Repr

/-- The wording of the reason. -/
def SettingsError.message : SettingsError → String
  | alreadyRead => "Config already initialized"
  | unreadable fault => fault.message

namespace Settings

/-- No settings. -/
def unread : Settings :=
  ⟨none⟩

/-- The outcome of an attempt to read settings, and the remarks on it. -/
structure Outcome where
  settings : Settings
  result : Except SettingsError Unit
  remarks : List Remark

/-- The sections of a text, and the remarks on it. -/
def sectionsOf (text : String) : List (String × Node) × List Remark :=
  match Toml.read? text with
  | some sections => (sections, [])
  | none => ([], [⟨.error, .settings, "Config syntax error, using empty config."⟩])

/-- Reads settings from a text. -/
def readText (settings : Settings) (text : String) : Outcome :=
  let (sections, remarks) := sectionsOf text
  match settings.sections with
  | none => ⟨⟨some sections⟩, .ok (), remarks⟩
  | some _ => ⟨settings, .error .alreadyRead, remarks⟩

/-- Reads settings from a file, of which `content` is what can be read; nothing, if it is not
there. -/
def readAt (settings : Settings) (path : String) (content : Option (Except FileError String)) :
    Outcome :=
  match content with
  | none =>
    let missing := s!"Config file not found at {Text.quoted path}, using defaults."
    let outcome := settings.readText ""
    { outcome with remarks := ⟨.warn, .settings, missing⟩ :: outcome.remarks }
  | some result =>
    let found : Remark := ⟨.info, .settings, s!"Loading config from {Text.quoted path}"⟩
    match result with
    | .ok text =>
      let outcome := settings.readText text
      { outcome with remarks := found :: outcome.remarks }
    | .error fault => ⟨settings, .error (.unreadable fault), [found]⟩

/-- A section, and the remarks on it. -/
def get {α : Type} (settings : Settings) (wanted : Section α) : α × List Remark :=
  match settings.sections.bind fun sections => sections.lookup wanted.name with
  | none => (wanted.standard, [])
  | some node =>
    match wanted.decode node with
    | .ok value => (value, [])
    | .error fault =>
      let text :=
        s!"Config section '[{wanted.name}]' mismatch: {fault.message}. Using default."
      (wanted.standard, [⟨.warn, .settings, text⟩])

/-- All sections, and the remarks on them. -/
def all (settings : Settings) : Sections × List Remark :=
  let (system, onSystem) := settings.get .system
  let (stage, onStage) := settings.get .stage
  let (scene, onScene) := settings.get .scene
  let (audio, onAudio) := settings.get .audio
  let (run, onRun) := settings.get .run
  (⟨system, stage, scene, audio, run⟩, onSystem ++ onStage ++ onScene ++ onAudio ++ onRun)

end Settings

end Storybook
