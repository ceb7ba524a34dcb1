import RegionGrid.Text.Quoted

/-!
# What can be wrong with a picture

The size of a picture, its colours, the name of a region, the name of its file, or the format that this
asks for.
-/

namespace RegionGrid

/-- What a font says of a text, or an encoder of a picture, that it does not take. -/
structure LibraryError where
  message : String
  /-- Whether it is the text or the picture that makes no sense. -/
  isValueError : Bool
  deriving DecidableEq, Repr

inductive PictureError where
  | negativeSize
  /-- A side is longer than any picture's. -/
  | sideOutOfRange (side : Int)
  /-- The pixels take more memory than there is. -/
  | noMemory
  /-- The numbers given for a colour are neither one, nor three, nor four. -/
  | noColour
  /-- The name of a region has no UTF-8 form, from which its colour would come. -/
  | unencodableName (name : String)
  /-- The name of a region cannot be measured or drawn, or the picture cannot be encoded. -/
  | library (e : LibraryError)
  | unknownExtension (extension : String)
  | onlyRead (format : String)
  /-- No encoder of the format takes the picture. -/
  | noEncoder
  | notNumbered (format : String)
  /-- The picture has no pixels; some encoders name their format. -/
  | empty (format? : Option String)
  deriving DecidableEq, Repr

namespace PictureError

/-- The error in words; there are none for the lack of memory, and the lack of an encoder is named. -/
def message : PictureError → String
  | negativeSize => "Width and height must be >= 0"
  | sideOutOfRange side =>
    if side < 0x8000000000000000 then "signed integer is greater than maximum"
    else "Python int too large to convert to C long"
  | noMemory => ""
  | noColour => "color must be int, or tuple of one, three or four elements"
  | unencodableName name => unencodableMessage name
  | library e => e.message
  | unknownExtension extension => s!"unknown file extension: {extension}"
  | onlyRead format => quoted format
  | noEncoder => "<OSError>"
  | notNumbered format => s!"Unsupported {format} image mode"
  | empty format? => "cannot write empty image" ++ format?.elim "" fun format => s!" as {format}"

end PictureError

/-- A picture has fewer rows and columns than this. -/
def sideLimit : Int := 0x80000000

/-- The most columns that a picture can have: each pixel of a row takes four bytes. -/
def mostColumns : Int := sideLimit / 4 - 2

/-- What is wrong with the size of a picture, if anything is. -/
def sizeError? (width height : Int) : Option PictureError :=
  if width < 0 ∨ height < 0 then some .negativeSize
  else if sideLimit ≤ width then some (.sideOutOfRange width)
  else if sideLimit ≤ height then some (.sideOutOfRange height)
  else if mostColumns < width then some .noMemory
  else none

end RegionGrid
