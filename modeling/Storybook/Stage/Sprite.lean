/-
**Sprites.**

A sprite is a picture on the stage with its place, size and look.

* `Sprite.ofTexture`: the sprite of a picture, before anything is done with it;
* `Sprite.width`, `Sprite.height`: its extent, whichever way it is flipped;
* `Sprite.contains`: whether a point lies in its box.
-/

import Storybook.Asset.Resource

namespace Storybook

/-- A pair of measures across and down. -/
structure Pair where
  x : Single
  y : Single
deriving DecidableEq, Repr

/-- The glow around a sprite that can be touched. -/
structure Glow where
  distance : Single
  strength : Single
  colour : Nat
deriving DecidableEq, Repr

/-- The handle of a sprite. -/
structure SpriteId where
  number : Nat
deriving DecidableEq, Repr

/-- A picture on the stage. -/
structure Sprite where
  /-- The name of the picture. -/
  texture : String
  /-- The size of the picture. -/
  size : Pair
  place : Pair
  scale : Pair
  alpha : Single
  rotation : Single
  /-- The point of the box that stands at the place, in parts of its extent. -/
  anchor : Pair
  interactive : Bool
  glow : Option Glow
deriving DecidableEq, Repr

namespace Sprite

/-- The sprite of a picture. -/
def ofTexture (name : String) (texture : Asset.Texture) : Sprite where
  texture := name
  size := ⟨texture.width, texture.height⟩
  place := ⟨0, 0⟩
  scale := ⟨1, 1⟩
  alpha := 1
  rotation := 0
  anchor := ⟨0, 0⟩
  interactive := false
  glow := none

/-- How wide a sprite is. -/
def width (sprite : Sprite) : Single :=
  sprite.size.x * sprite.scale.x.abs

/-- How high a sprite is. -/
def height (sprite : Sprite) : Single :=
  sprite.size.y * sprite.scale.y.abs

/-- Shows another picture. -/
def withTexture (sprite : Sprite) (name : String) (texture : Asset.Texture) : Sprite :=
  { sprite with texture := name, size := ⟨texture.width, texture.height⟩ }

/-- Whether a point lies in the box of a sprite, its border included. Rotation does not count. -/
def contains (sprite : Sprite) (x y : Single) : Bool :=
  let left := sprite.place.x - sprite.anchor.x * sprite.width
  let top := sprite.place.y - sprite.anchor.y * sprite.height
  left ≤ x && x ≤ left + sprite.width && top ≤ y && y ≤ top + sprite.height

end Sprite

end Storybook
