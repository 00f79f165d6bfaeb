/-
**Loaded assets.**

An asset is loaded as a texture or as a sound clip. Loading a manifest is all or nothing: if one of
its sources is missing, nothing is loaded.

* `Resources`: the loaded assets by name;
* `isAudio`: whether a name is that of a sound;
* `Shelf.load`: the assets of a manifest from a shelf that holds them by source.
-/

import Storybook.Asset.Manifest

namespace Storybook.Asset

/-- A picture on the stage, by its size in pixels. -/
structure Texture where
  width : Single
  height : Single
deriving DecidableEq, Repr

/-- A loaded sound, by its length in nanoseconds where that is known. -/
structure Clip where
  duration : Option Nat
deriving DecidableEq, Repr

/-- A loaded asset. -/
inductive Resource
  | texture (texture : Texture)
  | sound (clip : Clip)
deriving DecidableEq, Repr

/-! ### Loaded assets -/

/-- The loaded assets by name. -/
structure Resources where
  entries : Table Resource
deriving DecidableEq, Repr

namespace Resources

/-- No assets. -/
def empty : Resources :=
  ⟨[]⟩

/-- Adds an asset, in place of one with the same name. -/
def insert (resources : Resources) (name : String) (resource : Resource) : Resources :=
  ⟨resources.entries.insert name resource⟩

/-- The asset of a name. -/
def find? (resources : Resources) (name : String) : Option Resource :=
  resources.entries.find? name

/-- The texture of a name. -/
def texture? (resources : Resources) (name : String) : Option Texture :=
  match resources.find? name with
  | some (.texture texture) => some texture
  | _ => none

/-- The sound of a name. -/
def sound? (resources : Resources) (name : String) : Option Clip :=
  match resources.find? name with
  | some (.sound clip) => some clip
  | _ => none

/-- How many assets there are. -/
def size (resources : Resources) : Nat :=
  resources.entries.length

end Resources

/-! ### Sounds by name -/

/-- The endings of the names of sounds. -/
def audioEndings : List String :=
  [".mp3", ".wav", ".ogg", ".flac"]

/-- Whether a name is that of a sound; the case of Latin letters does not matter. -/
def isAudio (name : String) : Bool :=
  let lower := name.toList.map Char.toLower
  audioEndings.any fun ending => ending.toList.isSuffixOf lower

/-! ### Loading -/

/-- Why a manifest could not be loaded: the sources that are missing. -/
structure LoadError where
  missing : List String
deriving DecidableEq, Repr

/-- The wording of the reason. -/
def LoadError.message (error : LoadError) : String :=
  s!"Failed to load {error.missing.length} asset(s): " ++ String.intercalate ", " error.missing

/-- Loads every entry of a manifest with a loader of single sources. -/
def loadEach (load? : String → Option Resource) (manifest : Manifest) :
    Except LoadError Resources :=
  let missing := manifest.entries.filter fun entry => (load? entry.source).isNone
  if missing.isEmpty then
    return manifest.entries.foldl (fun resources entry =>
      match load? entry.source with
      | some resource => resources.insert entry.name resource
      | none => resources) .empty
  else
    throw ⟨missing.map Entry.source⟩

/-- Assets that are at hand, by source. -/
structure Shelf where
  available : Table Resource
deriving DecidableEq, Repr

namespace Shelf

/-- An empty shelf. -/
def empty : Shelf :=
  ⟨[]⟩

/-- Adds an asset, in place of one with the same source. -/
def insert (shelf : Shelf) (source : String) (resource : Resource) : Shelf :=
  ⟨shelf.available.insert source resource⟩

/-- The asset that stands for a source that nothing else is known of: a sound of unknown length or
the texture. -/
def guess (texture : Texture) (source : String) : Resource :=
  if isAudio source then .sound ⟨none⟩ else .texture texture

/-- A shelf with every source of a manifest. -/
def covering (manifest : Manifest) (texture : Texture) : Shelf :=
  manifest.aliases.foldl (fun shelf name => shelf.insert name (guess texture name)) empty

/-- Loads a manifest from the shelf. -/
def load (shelf : Shelf) (manifest : Manifest) : Except LoadError Resources :=
  loadEach shelf.available.find? manifest

end Shelf

end Storybook.Asset
