/-
**The standard settings in writing.**

A program that finds no settings writes the standard ones, so that they can be changed.

* `Settings.standardText`: every section with its standard values, as TOML.
-/

import Storybook.Number.Decimal
import Storybook.Settings.Section

namespace Storybook.Settings

/-- A text in quotes; nothing in it needs to be escaped. -/
def plainText (text : String) : String :=
  "\"" ++ text ++ "\""

/-- A measure in writing. -/
def measureText (measure : Single) : String :=
  Double.pointText (Single.widen measure)

/-- A section in writing: its name, and a line for every field. -/
def sectionText (name : String) (fields : List (String × String)) : String :=
  s!"[{name}]\n" ++ String.join (fields.map fun (field, value) => s!"{field} = {value}\n")

/-- The fields of the section on where things are found. -/
def systemFields (settings : SystemSettings) : List (String × String) :=
  [("story_path", plainText settings.storyPath), ("assets_path", plainText settings.assetsPath),
   ("log_path", plainText settings.logPath), ("log_level", plainText settings.logLevel)]

/-- The fields of the section on the stage. -/
def stageFields (settings : StageSettings) : List (String × String) :=
  [("width", measureText settings.width), ("height", measureText settings.height),
   ("frame_rate", toString settings.frameRate)]

/-- The fields of the section on scenes; a name that is not set has no field. -/
def sceneFields (options : SceneOptions) : List (String × String) :=
  (options.retriggerCharacter.toList.map fun name => ("retrigger_character", plainText name)) ++
    [("retrigger_interval_ms", toString options.retriggerMillis),
     ("bounce_offset", measureText options.bounceOffset)]

/-- The fields of the section on sounds. -/
def audioFields (settings : AudioSettings) : List (String × String) :=
  [("default_clip_ms", toString settings.clipMillis)]

/-- The fields of the section on the length of a play. -/
def runFields (settings : RunSettings) : List (String × String) :=
  [("seconds", toString settings.seconds), ("realtime", toString settings.realtime),
   ("report_every", toString settings.reportEvery)]

/-- Every section with its standard values. -/
def standardText : String :=
  String.intercalate "\n"
    [sectionText Section.system.name (systemFields Section.system.standard),
     sectionText Section.stage.name (stageFields Section.stage.standard),
     sectionText Section.scene.name (sceneFields Section.scene.standard),
     sectionText Section.audio.name (audioFields Section.audio.standard),
     sectionText Section.run.name (runFields Section.run.standard)]

end Storybook.Settings
