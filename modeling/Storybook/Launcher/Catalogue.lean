/-
**The assets of a story as files.**

The assets of a story are the files inside a directory. Of a picture only the size is read, and of a
sound only that it is there.

* `Catalogue.scan`: the files inside a directory;
* `Catalogue.fetch`: the asset of a source;
* `Catalogue.gather`: the assets of several sources.
-/

import Storybook.Asset.Resource
import Storybook.Image.Picture
import Storybook.Launcher.Host

namespace Storybook.Launcher

/-- The files inside a directory, by their paths in it. -/
structure Catalogue where
  root : String
  names : List String
deriving DecidableEq, Repr

namespace Catalogue

/-- A remark on loading assets. -/
def remark (level : Level) (text : String) : Remark :=
  ⟨level, .loader, text⟩

/-- The path of a file of the catalogue. The name is empty if the catalogue is about one file. -/
def path (catalogue : Catalogue) (name : String) : String :=
  if name.isEmpty then catalogue.root else Path.join catalogue.root name

/-- The asset that a picture of a given size is. -/
def textureOf (size : ImageSize) : Asset.Texture :=
  ⟨Single.ofInt size.width, Single.ofInt size.height⟩

/-- The asset of a picture by the content of its file, and the remark on it. -/
def readPicture (catalogue : Catalogue) (source : String) (content : Except FileError ByteArray) :
    Remark × Option Asset.Resource :=
  let path := catalogue.path source
  match content.toOption.elim (.error "") (Picture.size path) with
  | .ok size =>
    (remark .debug
      s!"Loaded asset: {source} -> {Text.quoted path} ({size.width}x{size.height})",
     some (.texture (textureOf size)))
  | .error fault =>
    (remark .error s!"Failed to read image {Text.quoted path}{fault}", none)

variable {m : Type → Type} [Monad m] [Host m]

/-- Looks for the files inside a directory. -/
def scan (filter : LogFilter) (root : String) : m Catalogue := do
  Host.log filter (remark .info s!"Scanning assets in {Text.quoted root}...")
  let names ← Host.filesBelow root
  Host.log filter (remark .info s!"Asset scan complete. Files: {names.length}")
  return ⟨root, names⟩

/-- The asset of a source. -/
def fetch (filter : LogFilter) (catalogue : Catalogue) (source : String) :
    m (Option Asset.Resource) := do
  if source ∉ catalogue.names then
    Host.log filter
      (remark .error s!"'{source}' not found under {Text.quoted catalogue.root}")
    return none
  else if Asset.isAudio source then
    return some (.sound ⟨none⟩)
  else
    let (remark, asset) := catalogue.readPicture source (← Host.read (catalogue.path source))
    Host.log filter remark
    return asset

/-- The assets of several sources, as far as they can be loaded. -/
def gather (filter : LogFilter) (catalogue : Catalogue) (sources : List String) :
    m Asset.Shelf :=
  sources.foldlM (fun (shelf : Asset.Shelf) (source : String) => do
    match ← catalogue.fetch filter source with
    | some asset => return shelf.insert source asset
    | none => return shelf) .empty

end Catalogue

end Storybook.Launcher
