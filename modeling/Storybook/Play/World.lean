/-
**The state of a play.**

The world holds everything that a running play changes: the stage, the motions, the timers and the
sounds, and what is to be reported.

* `World.advanceClock`: time passes for sounds and timers;
* `World.tick`: time passes for motions.
-/

import Storybook.Clock.Span
import Storybook.Clock.TimerQueue
import Storybook.Play.Event

namespace Storybook

/-- What is to be done when a timer is due. -/
inductive Task
  /-- Plays a sound of the scene's sound chain. -/
  | playSound (link : Nat)
  /-- Starts a motion whose handle was given out before. -/
  | startMotion (tick : TickId) (motion : Motion)
  /-- Lets a character appear again. -/
  | retrigger (character : CharacterId)
deriving DecidableEq, Repr

/-- The state of a play. -/
structure World where
  stage : Stage
  animator : Animator
  timers : TimerQueue Task
  audio : Audio
  resources : Asset.Resources
  /-- The events that have not been taken yet. -/
  events : Array Event
  /-- The remarks that have not been taken yet. -/
  remarks : Array Remark
deriving DecidableEq, Repr

namespace World

/-- A world where nothing has happened. -/
def initial (viewport : Viewport) (resources : Asset.Resources) (audio : Audio) : World :=
  ⟨Stage.empty viewport, Animator.empty, TimerQueue.empty, audio, resources, #[], #[]⟩

/-- Reports an event. -/
def report (world : World) (event : Event) : World :=
  { world with events := world.events.push event }

/-- Reports several events. -/
def reportAll (world : World) (events : List Event) : World :=
  events.foldl report world

/-- Makes a remark. -/
def remark (world : World) (level : Level) (speaker : Speaker) (text : String) : World :=
  { world with remarks := world.remarks.push ⟨level, speaker, text⟩ }

/-- Plays a sound and reports it. -/
def playSound (world : World) (sound : String) : PlaybackId × World :=
  let (playback, audio) := world.audio.play sound
  (playback, { world with audio }.report (.soundStarted sound playback))

/-- Registers a motion. -/
def registerMotion (world : World) (motion : Motion) : TickId × World :=
  let (tick, animator) := world.animator.register motion
  (tick, { world with animator })

/-- Takes out a motion. -/
def deregisterMotion (world : World) (tick : TickId) : World :=
  { world with animator := (world.animator.deregister tick).2 }

/-- Adds a timer that is due once. -/
def schedule (world : World) (delay : Nat) (task : Task) : TimerId × World :=
  let (timer, timers) := world.timers.schedule delay task
  (timer, { world with timers })

/-- Takes out a timer. -/
def cancelTimer (world : World) (timer : TimerId) : World :=
  { world with timers := (world.timers.cancel timer).2 }

/-- Changes a sprite. -/
def modifySprite (world : World) (sprite : SpriteId) (change : Sprite → Sprite) : World :=
  { world with stage := world.stage.modify sprite change }

/-- Creates a sprite that is not attached. -/
def createSprite (world : World) (sprite : Sprite) : SpriteId × World :=
  let (id, stage) := world.stage.create sprite
  (id, { world with stage })

/-- Draws a sprite on top of all others. -/
def attachSprite (world : World) (sprite : SpriteId) : World :=
  { world with stage := (world.stage.attach sprite).2 }

/-- Takes a sprite off the stage. -/
def destroySprite (world : World) (sprite : SpriteId) : World :=
  { world with stage := (world.stage.destroy sprite).2 }

/-- Lets time pass for sounds and timers. Answers the tasks that have become due. -/
def advanceClock (world : World) (span : Nat) : List Task × World :=
  let (fired, timers) := world.timers.advance span
  (fired.map Timer.task, { world with audio := world.audio.update span, timers })

/-- Takes the voices that have ended by themselves. -/
def takeFinished (world : World) : List PlaybackId × World :=
  let (finished, audio) := world.audio.drainFinished
  (finished, { world with audio })

/-- What is reported of a finished motion. A sprite that has faded away is still on the stage, only
not attached any more. -/
def finishedEvents (stage : Stage) (motion : Motion) : List Event :=
  let ended := .motionFinished motion.sprite motion.kind
  if motion.kind = .fade ∧ stage.isLive motion.sprite then
    [.spriteRemoved motion.sprite, ended]
  else
    [ended]

/-- Lets time pass for motions. -/
def tick (world : World) (span : Nat) : World :=
  let (finished, animator, stage) := world.animator.tick world.stage (Span.frames span)
  let next : World := { world with animator, stage }
  next.reportAll (finished.flatMap fun (entry : TickId × Motion) => finishedEvents stage entry.2)

end World

end Storybook
