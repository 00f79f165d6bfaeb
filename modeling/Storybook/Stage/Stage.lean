/-
**The stage.**

The stage keeps sprites under handles that are never given out twice. Sprites that are attached are
drawn, in the order in which they were attached; the last one is on top.

* `Stage.create`, `Stage.attach`, `Stage.detach`, `Stage.destroy`: the life of a sprite;
* `Stage.drawn`: the attached sprites, bottom to top;
* `Stage.hitTest`: the topmost sprite that can be touched at a point.
-/

import Storybook.Stage.Sprite

namespace Storybook

/-- The size of the visible part of the stage. -/
structure Viewport where
  width : Single
  height : Single
deriving DecidableEq, Repr

/-- Whether two sizes are the same in value. -/
def Viewport.same (first second : Viewport) : Bool :=
  first.width == second.width && first.height == second.height

/-- The sprites and the order in which they are drawn. -/
structure Stage where
  /-- How many handles have been given out. -/
  issued : Nat
  sprites : List (SpriteId × Sprite)
  order : List SpriteId
  viewport : Viewport
deriving DecidableEq, Repr

namespace Stage

/-- A stage without sprites. -/
def empty (viewport : Viewport) : Stage :=
  ⟨0, [], [], viewport⟩

/-- The sprite of a handle. -/
def find? (stage : Stage) (id : SpriteId) : Option Sprite :=
  stage.sprites.lookup id

/-- Whether a sprite is on the stage, attached or not. -/
def isLive (stage : Stage) (id : SpriteId) : Bool :=
  (stage.find? id).isSome

/-- Creates a sprite that is not attached. -/
def create (stage : Stage) (sprite : Sprite) : SpriteId × Stage :=
  let id : SpriteId := ⟨stage.issued + 1⟩
  (id, { stage with issued := stage.issued + 1, sprites := stage.sprites ++ [(id, sprite)] })

/-- Changes a sprite, if it is on the stage. -/
def modify (stage : Stage) (id : SpriteId) (change : Sprite → Sprite) : Stage :=
  { stage with sprites := stage.sprites.map fun (other, sprite) =>
      (other, if other = id then change sprite else sprite) }

/-- Whether a sprite is drawn. -/
def isAttached (stage : Stage) (id : SpriteId) : Bool :=
  stage.order.contains id

/-- Whether `attach` has an effect: the sprite is on the stage and not drawn yet. -/
def canAttach (stage : Stage) (id : SpriteId) : Bool :=
  stage.isLive id && !stage.isAttached id

/-- Draws a sprite on top of all others, if it is on the stage and not drawn yet. Answers whether it is. -/
def attach (stage : Stage) (id : SpriteId) : Bool × Stage :=
  if stage.canAttach id then
    (true, { stage with order := stage.order ++ [id] })
  else
    (false, stage)

/-- Draws a sprite no longer. Answers whether fewer sprites are drawn then. -/
def detach (stage : Stage) (id : SpriteId) : Bool × Stage :=
  let order := stage.order.filter fun other => other ≠ id
  (stage.order.length != order.length, { stage with order })

/-- Takes a sprite off the stage. Answers it, if it was there. -/
def destroy (stage : Stage) (id : SpriteId) : Option Sprite × Stage :=
  let sprites := stage.sprites.filter fun (other, _) => other ≠ id
  (stage.find? id, { (stage.detach id).2 with sprites })

/-- Changes the size of the visible part. -/
def resize (stage : Stage) (viewport : Viewport) : Stage :=
  { stage with viewport }

/-- How many sprites are on the stage, attached or not. -/
def size (stage : Stage) : Nat :=
  stage.sprites.length

/-- The attached sprites, bottom to top. -/
def drawn (stage : Stage) : List (SpriteId × Sprite) :=
  stage.order.filterMap fun id => (stage.find? id).map fun sprite => (id, sprite)

/-- Whether a sprite can be touched at a point. -/
def isTouchable (stage : Stage) (x y : Single) (id : SpriteId) : Bool :=
  match stage.find? id with
  | some sprite => sprite.interactive && 0 < sprite.alpha && sprite.contains x y
  | none => false

/-- The topmost sprite that can be touched at a point. -/
def hitTest (stage : Stage) (x y : Single) : Option SpriteId :=
  stage.order.reverse.find? (stage.isTouchable x y)

end Stage

end Storybook
