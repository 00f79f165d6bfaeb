/-
**The assets of a story.**

A manifest lists what has to be loaded before a story starts. Every picture and every sound that the
story refers to is listed once, in the order of the first reference, under the name it is referred
to by.

* `references`: the names that a story refers to, in order;
* `Manifest.push`: adds a reference, unless it is listed already;
* `Manifest.ofDocument`: the manifest of a story.
-/

import Storybook.Story.Document

namespace Storybook.Asset

open Story

/-! ### References -/

/-- The references of a character in order: its picture, then those of its effects, key by key. -/
def characterReferences (character : Character) : List String :=
  character.image :: character.actions.flatMap fun (_, effects) => effects.filterMap Effect.asset?

/-- The references of a scene in order: its background, its sounds, then those of its characters. -/
def sceneReferences (scene : Scene) : List String :=
  scene.background :: scene.sounds.map Sound.file ++ scene.characters.flatMap characterReferences

/-- **All references of a story in order**: those of its splash, then those of its scenes, id by id. The
tables of a story that was read are sorted, as `Story.Document.proper_of_ofJson` tells. -/
def references (document : Document) : List String :=
  document.splash.image :: document.splash.sound ::
    document.scenes.flatMap fun (_, scene) => sceneReferences scene

/-! ### Manifests -/

/-- An asset to load: where it comes from, and the name it is known by afterwards. -/
structure Entry where
  name : String
  source : String
deriving DecidableEq, Repr

/-- The assets to load, none of them twice. -/
structure Manifest where
  entries : List Entry
  /-- The names that are listed, to look them up. -/
  listed : Table Unit
deriving DecidableEq, Repr

namespace Manifest

/-- Nothing to load. -/
def empty : Manifest :=
  ⟨[], []⟩

/-- The names of the assets. -/
def aliases (manifest : Manifest) : List String :=
  manifest.entries.map Entry.name

/-- Whether an asset is listed under a name. -/
def contains (manifest : Manifest) (name : String) : Bool :=
  (manifest.listed.find? name).isSome

/-- Adds a reference, and tells whether it was not listed yet. -/
def push (manifest : Manifest) (reference : String) : Bool × Manifest :=
  if manifest.contains reference then
    (false, manifest)
  else
    (true, ⟨manifest.entries ++ [⟨reference, reference⟩], manifest.listed.insert reference ()⟩)

/-- Adds several references. -/
def pushAll (manifest : Manifest) (references : List String) : Manifest :=
  references.foldl (fun manifest reference => (manifest.push reference).2) manifest

/-- The manifest of a list of references. -/
def ofReferences (references : List String) : Manifest :=
  empty.pushAll references

/-- Adds the references of a character: its picture, then those of its effects, whatever key they stand
under. -/
def pushCharacter (manifest : Manifest) (character : Character) : Manifest :=
  character.actions.foldl
    (fun manifest (_, effects) => manifest.pushAll (effects.filterMap Effect.asset?))
    (manifest.push character.image).2

/-- Adds the references of a scene: its background, its sounds, then those of its characters. -/
def pushScene (manifest : Manifest) (scene : Scene) : Manifest :=
  let manifest := (manifest.push scene.background).2.pushAll (scene.sounds.map Sound.file)
  scene.characters.foldl pushCharacter manifest

/-- The manifest of a story: the references of its splash, then those of its scenes in order of their
ids. -/
def ofDocument (document : Document) : Manifest :=
  let manifest := empty.pushAll [document.splash.image, document.splash.sound]
  document.scenes.foldl (fun manifest (_, scene) => manifest.pushScene scene) manifest

end Manifest

end Storybook.Asset
