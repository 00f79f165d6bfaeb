/-
**Writing a story.**

A story is written with all its fields. A number that is not finite cannot be written and becomes
`null`, and of an unresolved effect only the name is kept.

* `Effect.node`, `Sound.node`, `Document.node`: parts of a story as values.
-/

import Storybook.Story.Document
import Storybook.Data.Node

namespace Storybook.Story

open Storybook.Data

/-- A value that may be missing. -/
def optionalNode {α : Type} (write : α → Node) : Option α → Node
  | some value => write value
  | none => .null

/-- A style. -/
def Style.node (style : Style) : Node :=
  .ofMembers [("distance", .single style.distance), ("strength", .single style.strength),
    ("color", .natural style.colour)]

/-- A splash. -/
def Splash.node (splash : Splash) : Node :=
  .ofMembers [("image", .text splash.image), ("sound", .text splash.sound)]

/-- A sound. -/
def Sound.node (sound : Sound) : Node :=
  .ofMembers [("id", optionalNode .text sound.id), ("file", .text sound.file),
    ("volume", .single sound.volume), ("wait_in_ms", optionalNode .natural sound.wait),
    ("next", optionalNode .text sound.next)]

/-- An effect. -/
def Effect.node (effect : Effect) : Node :=
  .ofMembers (("name", .text effect.name) :: match effect with
    | .audio sound => [("sound", .text sound)]
    | .move speed direction pause =>
      [("speed", .single speed), ("direction", .text direction.name),
        ("pause_in_ms", optionalNode .natural pause)]
    | .bounce speed => [("speed", .single speed)]
    | .transition image => [("image", .text image)]
    | .fadeOut speed => [("speed", .single speed)]
    | .spin speed => [("speed", .single speed)]
    | .unresolved _ _ => [])

/-- A position. -/
def Position.node (position : Position) : Node :=
  .ofMembers [("x1", .single position.x), ("y1", .single position.y)]

/-- A scale. -/
def Scale.node (scale : Scale) : Node :=
  .ofMembers [("height", .single scale.height), ("width", .single scale.width)]

/-- The settings of a character. -/
def CharacterSettings.node (settings : CharacterSettings) : Node :=
  .ofMembers [("scale", optionalNode Scale.node settings.scale),
    ("gravity", .single settings.gravity), ("flip", .boolean settings.flip)]

/-- The effects of an action. -/
def Effect.actionNode (effects : List Effect) : Node :=
  .ofMembers [("effects", .ofItems (effects.map Effect.node))]

/-- A character. -/
def Character.node (character : Character) : Node :=
  .ofMembers [("name", .text character.name), ("image", .text character.image),
    ("position", character.position.node),
    ("settings", optionalNode CharacterSettings.node character.settings),
    ("actions", .ofMembers (character.actions.map fun (key, effects) =>
      (key, Effect.actionNode effects)))]

/-- A scene. -/
def Scene.node (scene : Scene) : Node :=
  .ofMembers [("background", .text scene.background),
    ("sounds", .ofItems (scene.sounds.map Sound.node)),
    ("objects", .ofItems (scene.characters.map Character.node))]

/-- A story. -/
def Document.node (document : Document) : Node :=
  .ofMembers [("settings", .ofMembers [("interactive", document.style.node)]),
    ("splash", document.splash.node), ("start", .text document.start),
    ("scenes", .ofMembers (document.scenes.map fun (id, scene) => (id, scene.node)))]

end Storybook.Story
