/-
**Reports on a play.**

Events and sprites are reported as lines of the log.

* `Event.text`, `Event.report`: an event as a remark;
* `Sprite.line`: a sprite as a line;
* `reportStage`: the remarks on a stage;
* `Player.reportEvents`: the events of a play as its remarks.
-/

import Storybook.Play.Player

namespace Storybook

/-! ### Events -/

/-- The handle of a sprite in a report. -/
def SpriteId.text (id : SpriteId) : String :=
  s!"SpriteId({id.number})"

/-- The name of a trigger in a report. -/
def Trigger.text : Trigger → String
  | onLoad => "OnLoad"
  | touch => "Touch"

/-- A name with fields in a report. -/
def recordText (name : String) (fields : List (String × String)) : String :=
  let inner := String.intercalate ", " (fields.map fun (field, value) => s!"{field}: {value}")
  name ++ " \x7b " ++ inner ++ " \x7d"

/-- A character in a report. -/
def CharacterId.text (id : CharacterId) : String :=
  s!"CharacterId({id.index})"

/-- An event in a report. -/
def Event.text : Event → String
  | storyLoaded assets => recordText "StoryLoaded" [("assets", toString assets)]
  | splashShown => "SplashShown"
  | splashFinished => "SplashFinished"
  | sceneEntered scene => recordText "SceneEntered" [("scene", Text.quoted scene)]
  | sceneTornDown scene => recordText "SceneTornDown" [("scene", Text.quoted scene)]
  | characterShown character name =>
    recordText "CharacterShown" [("character", character.text), ("name", Text.quoted name)]
  | soundStarted sound playback =>
    recordText "SoundStarted"
      [("alias", Text.quoted sound), ("playback", s!"PlaybackId({playback.number})")]
  | effectExecuted character trigger effect =>
    recordText "EffectExecuted"
      [("character", character.text), ("trigger", trigger.text),
       ("effect", Text.quoted effect.name)]
  | effectSkipped character effect =>
    recordText "EffectSkipped"
      [("character", Text.quoted character), ("effect", Text.quoted effect.name),
       ("reason", Text.quoted effect.reason.message)]
  | motionFinished sprite kind =>
    recordText "MotionFinished" [("sprite", sprite.text), ("kind", Text.quoted kind.name)]
  | spriteRemoved sprite => recordText "SpriteRemoved" [("sprite", sprite.text)]

/-- How urgent an event is: the course of the story is of note, and an effect that is left out is a
warning. -/
def Event.level : Event → Level
  | storyLoaded _ => .info
  | splashShown => .info
  | splashFinished => .info
  | sceneEntered _ => .info
  | sceneTornDown _ => .info
  | effectSkipped _ _ => .warn
  | characterShown _ _ => .debug
  | soundStarted _ _ => .debug
  | effectExecuted _ _ _ => .debug
  | motionFinished _ _ => .debug
  | spriteRemoved _ => .debug

/-- The remark on an event. -/
def Event.report (event : Event) : Remark :=
  ⟨event.level, .launcher, event.text⟩

/-! ### The stage -/

/-- A pair of measures in a report. -/
def Pair.text (places : Nat) (pair : Pair) : String :=
  s!"({Single.fixed places pair.x}, {Single.fixed places pair.y})"

/-- A sprite in a report. -/
def Sprite.line (id : SpriteId) (sprite : Sprite) : String :=
  s!"  {id.text} '{sprite.texture}' pos={sprite.place.text 1} scale={sprite.scale.text 2} " ++
    s!"rot={Single.fixed 2 sprite.rotation} alpha={Single.fixed 2 sprite.alpha}" ++
    (if sprite.interactive then " [touch]" else "")

/-- The remarks on what is drawn in a frame. -/
def reportStage (frame : Nat) (drawn : List (SpriteId × Sprite)) : List Remark :=
  ⟨.info, .renderer, s!"Frame {frame}: {drawn.length} sprite(s) on stage"⟩ ::
    drawn.map fun (id, sprite) => ⟨.debug, .renderer, sprite.line id⟩

/-! ### Remarks of a play -/

namespace Player

/-- Makes remarks. -/
def remarkAll (player : Player) (remarks : List Remark) : Player :=
  { player with world := { player.world with remarks := player.world.remarks ++ remarks } }

/-- Takes the events, and makes remarks of them. -/
def reportEvents (player : Player) : Player :=
  let (events, player) := player.takeEvents
  player.remarkAll (events.map Event.report)

end Player

end Storybook
