import RegionGrid.Image.Error

/-!
# Picture formats

The formats of picture files, by the extensions of file names. Some formats are only read, some have
an encoder that is not at hand or takes other pictures than these, and the encoders of some have
limits of their own.
-/

namespace RegionGrid

inductive Encoder where
  /-- Pictures with pixels are written. -/
  | whole
  /-- Pictures with pixels are written if no side is longer than this. -/
  | limited (longestSide : Nat)
  /-- Every picture is written, also one without pixels. -/
  | lenient
  /-- No pictures of this kind are written. -/
  | absent
  /-- Only pictures that number their colours are written. -/
  | numbered
  /-- The format is only read. -/
  | none
  deriving DecidableEq, Repr

structure PictureFormat where
  name : String
  encoder : Encoder := .whole
  /-- The format that the encoder of the pixels names when it has none to encode. -/
  encodes : Option String := none
  deriving DecidableEq, Repr

namespace PictureFormat

/-- The format that keeps pixels as they are, and that every program reads. -/
def png : PictureFormat := { name := "PNG" }

/-- The format with rows of pixels from the bottom to the top. -/
def bmp : PictureFormat := { name := "BMP" }

def jpeg : PictureFormat := { name := "JPEG", encoder := .limited 65500, encodes := "JPEG" }

/-- The formats in which pictures are written, with the extensions of their files. -/
private def written : List (PictureFormat × List String) :=
  [(png, [".png", ".apng"]), (bmp, [".bmp"]), (jpeg, [".jpg", ".jpeg", ".jpe", ".jfif"]),
   ({ jpeg with name := "MPO" }, [".mpo"]), ({ jpeg with name := "PDF" }, [".pdf"]),
   ({ name := "ICO", encoder := .lenient }, [".ico"]), ({ name := "WEBP" }, [".webp"]),
   ({ name := "AVIF" }, [".avif", ".avifs"]), ({ name := "DDS" }, [".dds"]),
   ({ name := "DIB" }, [".dib"]), ({ name := "EPS" }, [".eps", ".ps"]), ({ name := "GIF" }, [".gif"]),
   ({ name := "ICNS" }, [".icns"]), ({ name := "IM" }, [".im"]),
   ({ name := "JPEG2000" }, [".jp2", ".j2k", ".jpc", ".jpf", ".jpx", ".j2c"]),
   ({ name := "PCX" }, [".pcx"]), ({ name := "PPM" }, [".pbm", ".pgm", ".ppm", ".pnm", ".pfm"]),
   ({ name := "QOI" }, [".qoi"]), ({ name := "SGI" }, [".bw", ".rgb", ".rgba", ".sgi"]),
   ({ name := "TGA" }, [".tga", ".icb", ".vda", ".vst"]), ({ name := "TIFF" }, [".tif", ".tiff"])]

/-- The formats with encoders that do not take these pictures. -/
private def refused : List (PictureFormat × List String) :=
  [({ name := "BLP", encoder := .numbered }, [".blp"])] ++
    [("BUFR", [".bufr"]), ("GRIB", [".grib"]), ("HDF5", [".h5", ".hdf"]), ("MSP", [".msp"]),
     ("PALM", [".palm"]), ("WMF", [".wmf", ".emf"]), ("XBM", [".xbm"])].map
      fun (name, extensions) => ({ name, encoder := .absent }, extensions)

private def onlyRead : List (PictureFormat × List String) :=
  [("CUR", [".cur"]), ("DCX", [".dcx"]), ("FITS", [".fit", ".fits"]), ("FLI", [".fli", ".flc"]),
   ("FTEX", [".ftc", ".ftu"]), ("GBR", [".gbr"]), ("IPTC", [".iim"]), ("MPEG", [".mpg", ".mpeg"]),
   ("PCD", [".pcd"]), ("PIXAR", [".pxr"]), ("PSD", [".psd"]), ("SUN", [".ras"]),
   ("XPM", [".xpm"])].map fun (name, extensions) => ({ name, encoder := .none }, extensions)

/-- The format of the picture files with an extension. -/
def ofExtension? (extension : String) : Option PictureFormat :=
  ((written ++ refused ++ onlyRead).find? (·.2.contains extension)).map (·.1)

/-- Whether files of the format are opened to be written. -/
def isWritable (format : PictureFormat) : Bool := format.encoder ≠ .none

/-- Why a picture of a size cannot be encoded in the format, if it cannot. -/
def obstacle? (format : PictureFormat) (width height : Nat) : Option PictureError :=
  let isEmpty := width = 0 ∨ height = 0
  match format.encoder with
  | .whole => if isEmpty then some (.empty format.encodes) else none
  | .limited longest =>
    if isEmpty then some (.empty format.encodes)
    else if longest < max width height then some .noEncoder
    else none
  | .lenient => none
  | .absent => some .noEncoder
  | .numbered => some (.notNumbered format.name)
  | .none => some (.onlyRead format.name)

end PictureFormat

end RegionGrid
