/-
**Files with pictures.**

The ending of a file's name tells the format of a picture, and the head of the file its size.

* `Picture.size`: the size of a picture by its file name and content.
-/

import Storybook.Files.Path
import Storybook.Image.Jpeg
import Storybook.Image.Png

namespace Storybook.Picture

/-- The size of a picture by its file name and content, or what is said of a fault. -/
def size (path : String) (content : ByteArray) : Except String ImageSize :=
  let ending := ((Path.extension? path).getD "").map Char.toLower
  if ending ∈ ["png", "apng"] then
    match Png.size? content.toList with
    | some size => .ok size
    | none => .error ""
  else if ending ∈ ["jpg", "jpeg", "jfif"] then
    match Jpeg.size content.toList with
    | .ok size => .ok size
    | .error fault => .error fault.wording
  else
    .error ""

end Storybook.Picture
