/-
**Scenes in play.**

A scene is entered once: its sounds start, its background is drawn, and its characters appear in
the order of the story. While it is active, characters of one name may appear again and again after
an interval. A scene that is torn down takes all of it away, and nothing can be done with it any
more.

* `Scene.enter`, `Scene.teardown`: the beginning and the end of a scene;
* `Scene.retrigger`, `Scene.playSound`, `Scene.finish`: what timers and sounds ask for;
* `Scene.touch`, `Scene.pointerUp`, `Scene.pointerUpAt`: what the audience asks for.
-/

import Storybook.Cast.Character
import Storybook.Sound.Chain

namespace Storybook

/-- What can be set for the scenes of a story. -/
structure SceneOptions where
  /-- The name of the characters that appear again and again. -/
  retriggerCharacter : Option String
  /-- The interval of that, in milliseconds. -/
  retriggerMillis : Nat
  /-- The height that a bounce lifts a sprite by. -/
  bounceOffset : Single
deriving DecidableEq, Repr

/-- The options where nothing is set. -/
def SceneOptions.standard : SceneOptions :=
  ⟨none, 2000, Effect.standardOffset⟩

/-- How far a scene has come. That it is about to be entered is no state of its own: this begins and ends
within `Scene.enter`, and nothing that is done there looks at it. -/
inductive SceneState
  | uninitialized
  | active
  | tornDown
deriving DecidableEq, Repr

/-- A scene that is played. -/
structure Scene where
  id : String
  backgroundImage : String
  state : SceneState
  /-- The sprite of the background. -/
  background : Option SpriteId
  characters : List Character
  sounds : SoundChain
  /-- The timers that let characters appear again. -/
  retriggers : List TimerId
  binder : Binder
  options : SceneOptions
deriving DecidableEq, Repr

namespace Scene

/-- The characters of a scene, numbered in order. -/
def cast (spec : Story.Scene) : List Character :=
  spec.characters.zipIdx.map fun (character, index) => .ofSpec ⟨index⟩ character

/-- A scene before it is entered. -/
def ofSpec (id : String) (spec : Story.Scene) (style : Story.Style) (options : SceneOptions) :
    Scene where
  id
  backgroundImage := spec.background
  state := .uninitialized
  background := none
  characters := cast spec
  sounds := .ofLinks spec.sounds
  retriggers := []
  binder := ⟨options.bounceOffset, style⟩
  options

/-- The character with a number. -/
def character? (scene : Scene) (id : CharacterId) : Option Character :=
  scene.characters[id.index]?

/-- The characters with a name. -/
def withName (scene : Scene) (name : String) : List CharacterId :=
  (scene.characters.filter fun character => character.name = name).map Character.id

/-- Puts another state of a character into the scene. -/
def setCharacter (scene : Scene) (id : CharacterId) (character : Character) : Scene :=
  { scene with characters := scene.characters.set id.index character }

/-! ### Entering -/

/-- Draws the background. -/
def drawBackground (scene : Scene) (world : World) : Scene × World :=
  match world.resources.texture? scene.backgroundImage with
  | some texture =>
    let (sprite, world) := world.createSprite (Sprite.ofTexture scene.backgroundImage texture)
    ({ scene with background := some sprite }, world.attachSprite sprite)
  | none =>
    (scene, world.remark .warn .scene
      s!"Scene '{scene.id}': background '{scene.backgroundImage}' is not loaded")

/-- Lets characters appear in order. -/
def appearEach (binder : Binder) : List Character → World → List Character × World
  | [], world => ([], world)
  | character :: rest, world =>
    let (character, world) := character.appear binder world
    let (rest, world) := appearEach binder rest world
    (character :: rest, world)

/-- Sets a timer for each of several characters. -/
def retriggerEach (span : Nat) : List CharacterId → World → List TimerId × World
  | [], world => ([], world)
  | character :: rest, world =>
    let (timer, timers) := world.timers.repeatEvery span (.retrigger character)
    let (rest, world) := retriggerEach span rest { world with timers }
    (timer :: rest, world)

/-- The characters that are to appear again and again. -/
def retriggered (scene : Scene) : List CharacterId :=
  match scene.options.retriggerCharacter with
  | some name => scene.withName name
  | none => []

/-- The remark where there is more than one of them. -/
def remarkRetriggered (scene : Scene) (world : World) : World :=
  match scene.options.retriggerCharacter with
  | some name =>
    let count := scene.retriggered.length
    if 1 < count then
      world.remark .warn .scene
        s!"Scene '{scene.id}': {count} characters named '{name}', re-triggering all of them"
    else
      world
  | none => world

/-- Sets the timers that let characters appear again. -/
def setRetriggers (scene : Scene) (world : World) : Scene × World :=
  let (retriggers, world) := retriggerEach (Span.millis scene.options.retriggerMillis)
    scene.retriggered (scene.remarkRetriggered world)
  ({ scene with retriggers := scene.retriggers ++ retriggers }, world)

/-- Enters a scene, unless that was done before. -/
def enter (scene : Scene) (world : World) : Scene × World :=
  if scene.state = .uninitialized then
    let world := world.remark .info .scene
      s!"Entering scene '{scene.id}' ({scene.characters.length} characters)"
    let (sounds, world) := scene.sounds.start world
    let (scene, world) := { scene with sounds }.drawBackground world
    let (characters, world) := appearEach scene.binder scene.characters world
    let (scene, world) := { scene with characters }.setRetriggers world
    ({ scene with state := .active }, world.report (.sceneEntered scene.id))
  else
    (scene, world.remark .warn .scene s!"Scene '{scene.id}' entered twice, ignored")

/-! ### While a scene is active -/

/-- Lets a character appear again. -/
def retrigger (scene : Scene) (id : CharacterId) (world : World) : Scene × World :=
  if scene.state = .active then
    match scene.character? id with
    | some character =>
      let (character, world) := character.appear scene.binder world
      (scene.setCharacter id character, world)
    | none => (scene, world)
  else
    (scene, world)

/-- Plays a sound whose turn has come. -/
def playSound (scene : Scene) (link : Nat) (world : World) : Scene × World :=
  if scene.state = .tornDown then
    (scene, world)
  else
    let (sounds, world) := scene.sounds.play link world
    ({ scene with sounds }, world)

/-- A playing has ended by itself. Answers whether the scene waited for it. -/
def finish (scene : Scene) (playback : PlaybackId) (world : World) : Bool × Scene × World :=
  let (awaited, sounds, world) := scene.sounds.finish playback world
  (awaited, { scene with sounds }, world)

/-- Touches a character. Answers whether that had an effect. -/
def touch (scene : Scene) (id : CharacterId) (world : World) : Bool × Scene × World :=
  if scene.state = .active then
    match scene.character? id with
    | some character =>
      let (fired, character, world) := character.touch world
      (fired, scene.setCharacter id character, world)
    | none => (false, scene, world)
  else
    (false, scene, world)

/-- The first character with a sprite. -/
def owner? (scene : Scene) (sprite : SpriteId) : Option CharacterId :=
  (scene.characters.find? fun character => character.sprite = some sprite).map Character.id

/-- A pointer is lifted over a sprite. -/
def pointerUp (scene : Scene) (sprite : SpriteId) (world : World) : Bool × Scene × World :=
  match scene.owner? sprite with
  | some id => scene.touch id world
  | none => (false, scene, world)

/-- A pointer is lifted at a point. -/
def pointerUpAt (scene : Scene) (x y : Single) (world : World) : Bool × Scene × World :=
  match world.stage.hitTest x y with
  | some sprite => scene.pointerUp sprite world
  | none => (false, scene, world)

/-! ### Tearing down -/

/-- Lets characters disappear in order. -/
def disappearEach : List Character → World → List Character × World
  | [], world => ([], world)
  | character :: rest, world =>
    let (character, world) := character.disappear world
    let (rest, world) := disappearEach rest world
    (character :: rest, world)

/-- Takes away all that belongs to a scene. -/
def teardown (scene : Scene) (world : World) : Scene × World :=
  if scene.state = .tornDown then
    (scene, world)
  else
    let world := scene.retriggers.foldl World.cancelTimer world
    let (sounds, world) := scene.sounds.stop world
    let (characters, world) := disappearEach scene.characters world
    let world :=
      match scene.background with
      | some sprite => world.destroySprite sprite
      | none => world
    let scene :=
      { scene with state := .tornDown, retriggers := [], sounds, characters, background := none }
    (scene, (world.remark .info .scene s!"Scene '{scene.id}' torn down").report
      (.sceneTornDown scene.id))

end Scene

end Storybook
