/-
**Playing a story.**

A story is loaded with all its assets. It starts with its splash, and when the sound of the splash
has ended its start scene is entered; without that sound the scene is entered at once. From then on
one scene at a time is played, frame by frame.

* `Player.load`: a story with its assets;
* `Player.start`, `Player.enterScene`, `Player.frame`, `Player.touch`, `Player.touchNamed`,
  `Player.pointerUpAt`, `Player.show`, `Player.shutdown`: what can be done with it;
* `Operation`, `Player.perform`: the same as a value, so that a whole play is a list.
-/

import Storybook.Play.Scene

namespace Storybook

/-- How far a play has come. -/
inductive Phase
  | loaded
  /-- The splash is shown until its sound has ended. -/
  | splash
  | playing
deriving DecidableEq, Repr

/-- A story that is played. -/
structure Player where
  document : Story.Document
  manifest : Asset.Manifest
  options : SceneOptions
  world : World
  phase : Phase
  splashSprite : Option SpriteId
  splashPlayback : Option PlaybackId
  scene : Option Scene
deriving DecidableEq, Repr

/-- The request for a scene that the story does not have. -/
structure NoScene where
  id : String
deriving DecidableEq, Repr

/-- The wording of the fault. -/
def NoScene.message (fault : NoScene) : String :=
  s!"Scene '{fault.id}' is not defined"

namespace Player

/-! ### Loading -/

/-- The remark on the assets that a story needs. -/
def neededRemark (manifest : Asset.Manifest) : Remark :=
  ⟨.info, .player, s!"Manifest resolved: {manifest.entries.length} asset(s)"⟩

/-- The remark on the assets that are loaded. -/
def loadedRemark (resources : Asset.Resources) : Remark :=
  ⟨.info, .player, s!"Loaded {resources.size} resource(s)"⟩

/-- The player of a story whose assets are loaded. -/
def ofResources (document : Story.Document) (resources : Asset.Resources) (audio : Audio)
    (viewport : Viewport) (options : SceneOptions) : Player :=
  let manifest := Asset.Manifest.ofDocument document
  let world := (World.initial viewport resources audio).report
    (.storyLoaded manifest.entries.length)
  ⟨document, manifest, options, world, .loaded, none, none, none⟩

/-- The wording of the fault that the assets of a story cannot be loaded. -/
def loadMessage (manifest : Asset.Manifest) (error : Asset.LoadError) : String :=
  s!"Failed to load {manifest.entries.length} story asset(s): {error.message}"

/-- Loads a story with its assets from a shelf. -/
def load (document : Story.Document) (shelf : Asset.Shelf) (audio : Audio) (viewport : Viewport)
    (options : SceneOptions) : Except Asset.LoadError Player := do
  let resources ← shelf.load (.ofDocument document)
  return ofResources document resources audio viewport options

/-! ### Scenes -/

/-- Tears the scene down that is played, if there is one. -/
def leaveScene (player : Player) : Player :=
  match player.scene with
  | some scene => { player with world := (scene.teardown player.world).2, scene := none }
  | none => player

/-- Takes the splash away. -/
def clearSplash (player : Player) : Player :=
  let world :=
    match player.splashSprite with
    | some sprite => player.world.destroySprite sprite
    | none => player.world
  let world :=
    match player.splashPlayback with
    | some _ => { world with audio := world.audio.stop player.document.splash.sound }
    | none => world
  { player with world, splashSprite := none, splashPlayback := none }

/-- Leaves what is played, and enters a scene. -/
def enterSpec (player : Player) (id : String) (spec : Story.Scene) : Player :=
  let player := player.leaveScene.clearSplash
  let (scene, world) :=
    (Scene.ofSpec id spec player.document.style player.options).enter player.world
  { player with world, scene := some scene, phase := .playing }

/-- Enters a scene of the story. The player stays as it is if there is no such scene. -/
def enterScene (player : Player) (id : String) : Except NoScene Unit × Player :=
  match player.document.scene? id with
  | some spec => (.ok (), player.enterSpec id spec)
  | none => (.error ⟨id⟩, player)

/-! ### Starting -/

/-- Shows the picture of the splash, if it is loaded. -/
def showSplash (player : Player) : Player :=
  let image := player.document.splash.image
  match player.world.resources.texture? image with
  | some texture =>
    let (sprite, world) := player.world.createSprite (Sprite.ofTexture image texture)
    { player with world := world.attachSprite sprite, splashSprite := some sprite }
  | none => player

/-- Plays the sound of the splash and waits for its end. -/
def playSplash (player : Player) : Player :=
  let sound := player.document.splash.sound
  let (playback, audio) := player.world.audio.play sound
  let world := { player.world with audio }.remark .info .player
    s!"Splash shown, waiting for '{sound}'"
  { player with
    world := (world.report .splashShown).report (.soundStarted sound playback)
    phase := .splash
    splashPlayback := some playback }

/-- Starts a story, unless that was done before. Where the sound of the splash is not loaded and the
start scene is missing, this fails, but the picture of the splash stays shown. -/
def start (player : Player) : Except NoScene Unit × Player :=
  if player.phase = .loaded then
    let sound := player.document.splash.sound
    let player := player.showSplash
    match player.world.resources.sound? sound with
    | some _ => (.ok (), player.playSplash)
    | none =>
      let world := player.world.remark .warn .player
        s!"Splash sound '{sound}' is not loaded, skipping splash"
      { player with world }.enterScene player.document.start
  else
    (.ok (), { player with world := player.world.remark .warn .player "Story already started" })

/-! ### Frames -/

/-- Hands a task to the scene that is played. -/
def withScene (player : Player) (change : Scene → World → Scene × World) : Player :=
  match player.scene with
  | some scene =>
    let (scene, world) := change scene player.world
    { player with world, scene := some scene }
  | none => player

/-- Does what a timer asks for. -/
def dispatch (player : Player) (task : Task) : Player :=
  match task with
  | .playSound link => player.withScene fun scene world => scene.playSound link world
  | .startMotion tick motion =>
    { player with world :=
        { player.world with animator := (player.world.animator.registerReserved tick motion).2 } }
  | .retrigger character => player.withScene fun scene world => scene.retrigger character world

/-- The sound of the splash has ended: the start scene follows. -/
def leaveSplash (player : Player) : Player :=
  let player := { player with
    world := player.world.report .splashFinished
    splashPlayback := none }
  match player.enterScene player.document.start with
  | (.ok (), player) => player
  | (.error fault, player) =>
    let text := s!"Failed to enter start scene: {fault.message}"
    { player with world := player.world.remark .error .player text }

/-- A playing has ended by itself. -/
def finish (player : Player) (playback : PlaybackId) : Player :=
  if player.splashPlayback = some playback then
    player.leaveSplash
  else
    player.withScene fun scene world => (scene.finish playback world).2

/-- One frame: what timers ask for, then the sounds that have ended, then the motions. -/
def frame (player : Player) (span : Nat) : Player :=
  let (tasks, world) := player.world.advanceClock span
  let player := tasks.foldl dispatch { player with world }
  let (finished, world) := player.world.takeFinished
  let player := finished.foldl finish { player with world }
  { player with world := player.world.tick span }

/-! ### Touches -/

/-- Asks the scene that is played. -/
def askScene (player : Player) (change : Scene → World → Bool × Scene × World) : Bool × Player :=
  match player.scene with
  | some scene =>
    let (answer, scene, world) := change scene player.world
    (answer, { player with world, scene := some scene })
  | none => (false, player)

/-- Touches a character. -/
def touch (player : Player) (id : CharacterId) : Bool × Player :=
  player.askScene fun scene world => scene.touch id world

/-- Touches several characters. Answers for how many of them that had an effect. -/
def touchEach : List CharacterId → Player → Nat × Player
  | [], player => (0, player)
  | id :: rest, player =>
    let (fired, player) := player.touch id
    let (count, player) := touchEach rest player
    (if fired then count + 1 else count, player)

/-- Touches every character with a name. -/
def touchNamed (player : Player) (name : String) : Nat × Player :=
  match player.scene with
  | some scene => touchEach (scene.withName name) player
  | none => (0, player)

/-- A pointer is lifted at a point. -/
def pointerUpAt (player : Player) (x y : Single) : Bool × Player :=
  player.askScene fun scene world => scene.pointerUpAt x y world

/-! ### Showing and ending -/

/-- Shows the stage in a window of a given size, and answers what is drawn. -/
def render (player : Player) (viewport : Viewport) : List (SpriteId × Sprite) × Player :=
  let stage :=
    if viewport.same player.world.stage.viewport then
      player.world.stage
    else
      player.world.stage.resize viewport
  (stage.drawn, { player with world := { player.world with stage } })

/-- Leaves what is played. -/
def shutdown (player : Player) : Player :=
  player.leaveScene.clearSplash

/-- Takes a sprite off the stage from outside the play. -/
def destroySprite (player : Player) (sprite : SpriteId) : Player :=
  { player with world := player.world.destroySprite sprite }

/-- Takes the events that were reported since the last time. -/
def takeEvents (player : Player) : List Event × Player :=
  (player.world.events.toList, { player with world := { player.world with events := #[] } })

/-- Takes the remarks that were made since the last time. -/
def takeRemarks (player : Player) : List Remark × Player :=
  (player.world.remarks.toList, { player with world := { player.world with remarks := #[] } })

end Player

/-! ### Operations -/

/-- Something that is done with a player from outside. -/
inductive Operation
  | start
  | enterScene (id : String)
  | frame (span : Nat)
  | touch (character : CharacterId)
  | touchNamed (name : String)
  | pointerUpAt (x y : Single)
  | render (viewport : Viewport)
  | destroy (sprite : SpriteId)
  | shutdown
deriving DecidableEq, Repr

namespace Player

/-- The player after an operation, be it that it failed or not. -/
def perform (player : Player) : Operation → Player
  | .start => player.start.2
  | .enterScene id => (player.enterScene id).2
  | .frame span => player.frame span
  | .touch character => (player.touch character).2
  | .touchNamed name => (player.touchNamed name).2
  | .pointerUpAt x y => (player.pointerUpAt x y).2
  | .render viewport => (player.render viewport).2
  | .destroy sprite => player.destroySprite sprite
  | .shutdown => player.shutdown

/-- The player after a list of operations. -/
def run (player : Player) (operations : List Operation) : Player :=
  operations.foldl perform player

end Player

end Storybook
