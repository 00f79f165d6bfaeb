/-
**What happens during a play.**

Everything of note that is done is an event, in the order in which it is done. Remarks for the log
are kept apart from the events.

* `Trigger`, `EffectKind`: when effects run, and what they are;
* `Unusable`: why an effect is left out;
* `Event`, `Remark`: what is reported.
-/

import Storybook.Story.Document
import Storybook.Stage.Animator
import Storybook.Sound.Audio

namespace Storybook

/-- The number of a character in its scene, in the order of the story. Names need not be unique. -/
structure CharacterId where
  index : Nat
deriving DecidableEq, Repr

/-- When the effects of an action run. -/
inductive Trigger
  /-- When the character appears. -/
  | onLoad
  /-- When the character is touched. -/
  | touch
deriving DecidableEq, Repr

namespace Trigger

/-- The key of the action. -/
def key : Trigger → String
  | onLoad => "onload"
  | touch => "touch"

/-- The trigger of a key. -/
def ofKey? : String → Option Trigger
  | "onload" => some onLoad
  | "touch" => some touch
  | _ => none

end Trigger

/-- What an effect does. -/
inductive EffectKind
  | audio
  | move
  | bounce
  | transition
  | fadeOut
  | spin
deriving DecidableEq, Repr

/-- The name of a kind of effects. -/
def EffectKind.name : EffectKind → String
  | audio => "audio"
  | move => "move"
  | bounce => "bounce"
  | transition => "transition"
  | fadeOut => "fade_out"
  | spin => "spin"

/-- Why an effect is left out. -/
inductive Unusable
  | unresolved (fault : Data.Fault)
  | noSound (sound : String)
  | noImage (image : String)
deriving DecidableEq, Repr

/-- The wording of the reason. -/
def Unusable.message : Unusable → String
  | unresolved fault => fault.message
  | noSound sound => s!"sound '{sound}' is not loaded"
  | noImage image => s!"image '{image}' is not loaded"

/-- An effect that is left out, by the name it was written with. -/
structure SkippedEffect where
  name : String
  reason : Unusable
deriving DecidableEq, Repr

/-- The wording of an effect that is left out. -/
def SkippedEffect.message (effect : SkippedEffect) : String :=
  s!"effect '{effect.name}' unresolved: {effect.reason.message}"

/-- Something that was done. -/
inductive Event
  | storyLoaded (assets : Nat)
  | splashShown
  | splashFinished
  | sceneEntered (scene : String)
  | sceneTornDown (scene : String)
  | characterShown (character : CharacterId) (name : String)
  | soundStarted (sound : String) (playback : PlaybackId)
  | effectExecuted (character : CharacterId) (trigger : Trigger) (effect : EffectKind)
  | effectSkipped (character : String) (effect : SkippedEffect)
  | motionFinished (sprite : SpriteId) (kind : MotionKind)
  | spriteRemoved (sprite : SpriteId)
deriving DecidableEq, Repr

/-- How urgent a remark is. -/
inductive Level
  | error
  | warn
  | info
  | debug
deriving DecidableEq, Repr

/-- The part of the program that makes a remark. -/
inductive Speaker
  | player
  | scene
  | character
  | trigger
  | soundChain
  | settings
  | launcher
  | loader
  | renderer
deriving DecidableEq, Repr

/-- A line for the log. -/
structure Remark where
  level : Level
  speaker : Speaker
  text : String
deriving DecidableEq, Repr

end Storybook
