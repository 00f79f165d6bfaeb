/-
**Stories as they are written.**

A story has scenes, each with a background, sounds and characters. A character has actions under
keys, and an action is a list of effects. An effect that makes no sense is kept as unresolved, so
that it costs only its own place in the list.

* `Document`, `Scene`, `Sound`, `Character`, `Effect`: the parts of a story;
* `Document.scene?`: a scene by its id;
* `Effect.name`, `Effect.asset?`: what an effect is called, and the picture or sound it needs.
-/

import Storybook.Table
import Storybook.Data.Fault

namespace Storybook.Story

open Storybook.Data

/-- How touchable characters glow. -/
structure Style where
  distance : Single
  strength : Single
  /-- Three bytes for red, green and blue; any number of 32 bits is kept. -/
  colour : Nat
deriving DecidableEq, Repr

/-- The style of a story that does not set one. -/
def Style.standard : Style :=
  ⟨10, 2, 0xffffff⟩

/-- The picture and the sound before the first scene. -/
structure Splash where
  image : String
  sound : String
deriving DecidableEq, Repr

/-- A sound of a scene. -/
structure Sound where
  id : Option String
  file : String
  volume : Single
  /-- Milliseconds of silence before the sound. Only a sound that has it may start by itself. -/
  wait : Option Nat
  /-- The id of the sounds that follow this one. -/
  next : Option String
deriving DecidableEq, Repr

/-- The side to which a character moves. -/
inductive Direction
  | left
  | right
deriving DecidableEq, Repr

namespace Direction

/-- The sign of horizontal speeds in a direction. -/
def sign : Direction → Single
  | left => -1
  | right => 1

/-- The name of a direction. -/
def name : Direction → String
  | left => "left"
  | right => "right"

end Direction

/-- An effect of an action. -/
inductive Effect
  | audio (sound : String)
  /-- The pause before the move is in milliseconds. -/
  | move (speed : Single) (direction : Direction) (pause : Option Nat)
  | bounce (speed : Single)
  | transition (image : String)
  | fadeOut (speed : Single)
  | spin (speed : Single)
  /-- An effect of an unknown name or with bad parameters. -/
  | unresolved (name : String) (fault : Fault)
deriving DecidableEq, Repr

namespace Effect

/-- The names of the effects. -/
def names : List String :=
  ["audio", "move", "bounce", "transition", "fade_out", "spin"]

/-- The name of an effect as it was written. -/
def name : Effect → String
  | audio _ => "audio"
  | move _ _ _ => "move"
  | bounce _ => "bounce"
  | transition _ => "transition"
  | fadeOut _ => "fade_out"
  | spin _ => "spin"
  | unresolved name _ => name

/-- The picture or sound that an effect needs. -/
def asset? : Effect → Option String
  | audio sound => some sound
  | transition image => some image
  | _ => none

end Effect

/-- A place on the stage. -/
structure Position where
  x : Single
  y : Single
deriving DecidableEq, Repr

/-- How a character's picture is stretched. -/
structure Scale where
  height : Single
  width : Single
deriving DecidableEq, Repr

/-- Further settings of a character. -/
structure CharacterSettings where
  scale : Option Scale
  gravity : Single
  flip : Bool
deriving DecidableEq, Repr

/-- The settings of a character where nothing is set. -/
def CharacterSettings.standard : CharacterSettings :=
  ⟨none, 0, false⟩

/-- A character of a scene. Its actions are sorted by key. -/
structure Character where
  name : String
  image : String
  position : Position
  settings : Option CharacterSettings
  actions : Table (List Effect)
deriving DecidableEq, Repr

/-- The strength of gravity on a character. -/
def Character.gravity (character : Character) : Single :=
  match character.settings with
  | some settings => settings.gravity
  | none => 0

/-- A scene. -/
structure Scene where
  background : String
  sounds : List Sound
  characters : List Character
deriving DecidableEq, Repr

/-- A story. Its scenes are sorted by id. -/
structure Document where
  style : Style
  splash : Splash
  start : String
  scenes : Table Scene
deriving DecidableEq, Repr

/-- The scene with an id. -/
def Document.scene? (document : Document) (id : String) : Option Scene :=
  document.scenes.find? id

end Storybook.Story
