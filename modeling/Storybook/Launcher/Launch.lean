/-
**The launcher.**

The launcher reads the settings, or writes the standard ones if there are none, and opens the log.
Then it reads the story with its assets and plays it for the time that it is given. What goes wrong
on the way ends the run, and is the last thing in the log. Only a run with more frames than can be
counted is aborted without a word there.

* `LaunchError`: what can go wrong;
* `prepare`: the settings and the log;
* `openStory`, `play`: the story;
* `launch`, `Ending`: a whole run, and how it ends.
-/

import Storybook.Launcher.Catalogue
import Storybook.Launcher.Session
import Storybook.Settings.Store
import Storybook.Settings.Writing
import Storybook.Story.Reading

namespace Storybook.Launcher

/-- Why a story is not played to its end. -/
inductive LaunchError
  | arguments (error : ArgumentError)
  | noStory (path : String) (fault : FileError)
  | document (error : Story.DocumentError)
  | assets (manifest : Asset.Manifest) (error : Asset.LoadError)
  | scene (fault : NoScene)
  /-- The frames that are to be played cannot be counted in 64 bits. -/
  | overflow

/-- The wording of the reason. -/
def LaunchError.message : LaunchError → String
  | arguments error => error.message
  | noStory path fault =>
    s!"Story '{path}' not found. Please check config.toml or file path.: {fault.message}"
  | document error => error.message
  | assets manifest error => Player.loadMessage manifest error
  | scene fault => fault.message
  | overflow => "attempt to multiply with overflow"

/-- A remark of the launcher. -/
def remark (level : Level) (text : String) : Remark :=
  ⟨level, .launcher, text⟩

variable {m : Type → Type} [Monad m] [Host m]

/-! ### Settings and log -/

/-- The path of the settings. -/
def settingsPath : String :=
  "config.toml"

/-- The name of the log in its directory. -/
def logName : String :=
  "fable.log"

/-- Writes the standard settings, unless there are settings. -/
def ensureSettings : m Unit := do
  unless ← Host.isThere settingsPath do
    Host.say (.plain s!"Creating default configuration at '{settingsPath}'...")
    match ← Host.write settingsPath Settings.standardText.toUTF8 with
    | .ok () => Host.say (.plain "Config file created successfully.")
    | .error fault => Host.complain s!"Failed to write config file: {fault.message}"

/-- Reads the settings. There is no log yet for the remarks on that. -/
def readSettings : m Settings := do
  let content ←
    if ← Host.isThere settingsPath then some <$> Host.readText settingsPath else pure none
  let outcome := Settings.unread.readAt settingsPath content
  match outcome.result with
  | .ok () => pure ()
  | .error fault => Host.complain s!"Config load warning: {fault.message}"
  return outcome.settings

/-- Opens the log, and answers which remarks are logged. -/
def openLog (settings : SystemSettings) : m LogFilter := do
  match ← Host.makeDirectories settings.logPath with
  | .ok () => pure ()
  | .error fault => Host.complain s!"Failed to create log dir: {fault.message}"
  let (filter, faults) := LogFilter.ofText settings.logLevel
  for fault in faults do
    Host.complain s!"warning: {fault}, ignoring it"
  let path := Path.join settings.logPath logName
  match ← Host.openLog path with
  | .ok () => pure ()
  | .error fault =>
    Host.complain
      s!"Failed to open log file {Text.quoted path}: {fault.message}, logging to stdout only"
  return filter

/-- Reads the settings, and opens the log. -/
def prepare : m (Settings × LogFilter) := do
  ensureSettings
  let settings ← readSettings
  let filter ← openLog (settings.get .system).1
  return (settings, filter)

/-! ### The story -/

/-- Goes on with a value, or ends the run. -/
def orFail {ε α : Type} (result : Except ε α) (error : ε → LaunchError) :
    ExceptT LaunchError m α :=
  ExceptT.mk (return result.mapError error)

/-- Reads the story. -/
def readStory (filter : LogFilter) (path : String) : ExceptT LaunchError m Story.Document := do
  Host.log filter (remark .info s!"Loading story from config: {path}")
  let text ← orFail (← Host.readText path) (.noStory path)
  Host.log filter (remark .debug s!"Loaded story: {text.utf8ByteSize} bytes")
  let document ← orFail (Story.Document.ofJson text) .document
  Host.log filter (remark .info
    s!"Story parsed: {document.scenes.length} scene(s), start '{document.start}'")
  return document

/-- Loads the assets of a story from a directory. -/
def loadAssets (filter : LogFilter) (root : String) (document : Story.Document) :
    ExceptT LaunchError m Asset.Resources := do
  let manifest := Asset.Manifest.ofDocument document
  let catalogue ← Catalogue.scan filter root
  Host.log filter (Player.neededRemark manifest)
  let shelf ← catalogue.gather filter (manifest.entries.map Asset.Entry.source)
  let resources ← orFail (shelf.load manifest) (.assets manifest)
  Host.log filter (Player.loadedRemark resources)
  return resources

/-- Reads a story with its assets, and starts it. -/
def openStory (filter : LogFilter) (sections : Sections) : ExceptT LaunchError m Player := do
  let document ← readStory filter sections.system.storyPath
  let resources ← loadAssets filter sections.system.assetsPath document
  let audio := Audio.silent (Span.millis sections.audio.clipMillis) []
  let viewport : Viewport := ⟨sections.stage.width, sections.stage.height⟩
  let player := Player.ofResources document resources audio viewport sections.scene
  let (started, player) := player.start
  let (remarks, player) := player.takeRemarks
  Host.logAll filter remarks
  orFail started .scene
  return player

/-- The beginning of a session with a story that was started. -/
def Session.ofSections (player : Player) (sections : Sections) (touches : List ScriptedTouch) : Session :=
  .ofPlayer player ⟨sections.stage.width, sections.stage.height⟩ sections.run.reportEvery
    sections.stage.frameRate touches

/-- The remark on how long a story is played. -/
def runningRemark (frames frameRate : Nat) (realtime : Bool) : Remark :=
  remark .info
    s!"Running {frames} frame(s) at {framesPerSecond frameRate} fps (realtime: {realtime})"

/-- Logs the remarks that were made in a session. -/
def flush (filter : LogFilter) (session : Session) : m Session := do
  let (remarks, session) := session.takeRemarks
  Host.logAll filter remarks
  return session

/-- Plays a number of frames. In real time each of them takes its time. -/
def playFrames (filter : LogFilter) (realtime : Bool) : Nat → Session → m Session
  | 0, session => return session
  | count + 1, session => do
    let session ← flush filter session.step
    if realtime then
      Host.pause session.frameSpan
    playFrames filter realtime count session

/-- Reads a story and plays it. -/
def play (filter : LogFilter) (settings : Settings) (words : List String) :
    ExceptT LaunchError m Unit := do
  let (remarks, parsed) := Arguments.parse words
  Host.logAll filter remarks
  let arguments ← orFail parsed .arguments
  let (sections, remarks) := settings.all
  Host.logAll filter remarks
  let player ← openStory filter sections
  let frameRate := sections.stage.frameRate
  let realtime := arguments.realtime || sections.run.realtime
  match frameCount? (arguments.seconds.getD sections.run.seconds) frameRate with
  | none => throw .overflow
  | some frames =>
    Host.log filter (runningRemark frames frameRate realtime)
    let session ← playFrames filter realtime frames (.ofSections player sections arguments.touches)
    let _ ← flush filter session.finish

/-! ### A whole run -/

/-- How a run ends. -/
inductive Ending
  | played
  /-- The reason is the last thing in the log. -/
  | failed
  /-- The run breaks off where it stands, and the log does not say why. -/
  | aborted (reason : String)
deriving DecidableEq, Repr

/-- The exit code. -/
def Ending.code : Ending → Nat
  | played => 0
  | failed => 1
  | aborted _ => 101

/-- A whole run with the words of a command line. -/
def launch (words : List String) : m Ending := do
  let (settings, filter) ← prepare
  Host.log filter (remark .info ">>> Fable Desktop Launcher Started <<<")
  match ← (play filter settings words).run with
  | .ok () => return .played
  | .error .overflow => return .aborted LaunchError.overflow.message
  | .error error =>
    Host.log filter (remark .error error.message)
    return .failed

end Storybook.Launcher
