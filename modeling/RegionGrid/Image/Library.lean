import RegionGrid.Image.Format
import RegionGrid.Image.Picture

/-!
# Picture libraries

What drawing and writing a picture leaves to a library: the memory for its pixels, the font of its labels,
the formats of picture files, and what their encoders take.
-/

namespace RegionGrid

structure PictureLibrary where
  font : Font := .oversized
  /-- Whether there is memory for a picture with so many columns and rows. -/
  hasMemory : Nat → Nat → Bool := fun _ _ => true
  /-- The format of the picture files with an extension. -/
  format? : String → Option PictureFormat := PictureFormat.ofExtension?
  /-- Why a picture cannot be encoded in a format, if it cannot. -/
  obstacle? : PictureFormat → Picture → Option PictureError := fun format picture =>
    format.obstacle? picture.width picture.height

end RegionGrid
