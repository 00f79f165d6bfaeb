/-
**Characters on the stage.**

A character appears with a sprite of its own, its effects bound to it, and disappears with all that
it has put into the world. A character that appears while it is on the stage disappears first, so
that it never stands there twice.

* `Character.appear`, `Character.disappear`: coming and going;
* `Character.touch`: runs the effects for touches.
-/

import Storybook.Cast.Binding

namespace Storybook

/-- A character of the scene that is played. -/
structure Character where
  id : CharacterId
  spec : Story.Character
  sprite : Option SpriteId
  bindings : Bindings
  /-- The motion of its gravity. -/
  gravity : Option TickId
deriving DecidableEq, Repr

namespace Character

/-- A character that has not appeared yet. -/
def ofSpec (id : CharacterId) (spec : Story.Character) : Character :=
  ⟨id, spec, none, .none, none⟩

/-- The name of a character. -/
def name (character : Character) : String :=
  character.spec.name

/-- The sprite of a character as its story places it. -/
def newSprite (spec : Story.Character) (texture : Asset.Texture) : Sprite :=
  let sprite := { Sprite.ofTexture spec.image texture with
    place := ⟨spec.position.x, spec.position.y⟩ }
  match spec.settings with
  | none => sprite
  | some settings =>
    let scale : Pair :=
      match settings.scale with
      | some scale => ⟨scale.height, scale.width⟩
      | none => sprite.scale
    { sprite with scale := if settings.flip then ⟨-scale.x, scale.y⟩ else scale }

/-- Calls off all effects, and takes the character off the stage. -/
def disappear (character : Character) (world : World) : Character × World :=
  let world := character.bindings.cancel world
  let world :=
    match character.gravity with
    | some tick => world.deregisterMotion tick
    | none => world
  let world :=
    match character.sprite with
    | some sprite => world.destroySprite sprite
    | none => world
  ({ character with sprite := none, bindings := .none, gravity := none }, world)

/-- Runs the effects for the appearance. -/
def fireOnLoad (character : Character) (world : World) : Character × World :=
  match character.bindings.onLoad with
  | none => (character, world)
  | some chain =>
    let (chain, world) := chain.fire character.id world
    ({ character with bindings := { character.bindings with onLoad := some chain } }, world)

/-- Lets gravity work on a sprite, if there is any. -/
def startGravity (character : Character) (sprite : SpriteId) (world : World) : Character × World :=
  let strength := character.spec.gravity
  if strength == 0 then
    (character, world)
  else
    let (tick, world) := world.registerMotion (.gravity sprite strength 0)
    ({ character with gravity := some tick }, world)

/-- Puts a character that is not on the stage there, with its picture. -/
def enterStage (character : Character) (binder : Binder) (texture : Asset.Texture)
    (world : World) : Character × World :=
  let (sprite, world) := world.createSprite (newSprite character.spec texture)
  let bound := binder.bind character.spec sprite world
  let world := bound.world.reportAll (bound.skipped.map (.effectSkipped character.name))
  let world := (world.attachSprite sprite).report (.characterShown character.id character.name)
  let character := { character with sprite := some sprite, bindings := bound.bindings }
  let (character, world) := character.fireOnLoad world
  character.startGravity sprite world

/-- Lets a character appear, anew if it is on the stage. A character whose picture is not loaded
does not appear. -/
def appear (character : Character) (binder : Binder) (world : World) : Character × World :=
  let (character, world) :=
    if character.sprite.isSome then character.disappear world else (character, world)
  match world.resources.texture? character.spec.image with
  | some texture => character.enterStage binder texture world
  | none =>
    (character, world.remark .warn .character
      s!"{character.name}: image '{character.spec.image}' is not loaded, not shown")

/-- Runs the effects for touches. Answers whether there are any. -/
def touch (character : Character) (world : World) : Bool × Character × World :=
  match character.sprite, character.bindings.touch with
  | some _, some chain =>
    let (chain, world) := chain.fire character.id world
    (true, { character with bindings := { character.bindings with touch := some chain } }, world)
  | _, _ => (false, character, world)

end Character

end Storybook
