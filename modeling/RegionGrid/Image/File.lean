import RegionGrid.Image.Format
import RegionGrid.Image.Picture

/-!
# Picture files

The bytes of a picture in two formats that keep every pixel as it is: PNG, whose data are stored
without compression, and BMP, whose rows go from the bottom to the top. A file of another format gets
the bytes of a PNG file, which programs know by its first bytes.
-/

namespace RegionGrid

namespace Picture

/-- The four bytes of a number, the least significant first. -/
private def littleEndian (n : Nat) : List UInt8 :=
  [UInt8.ofNat n, UInt8.ofNat (n >>> 8), UInt8.ofNat (n >>> 16), UInt8.ofNat (n >>> 24)]

private def bigEndian (n : Nat) : List UInt8 := (littleEndian n).reverse

def row (picture : Picture) (y : Nat) : List Colour :=
  (List.range picture.width).map fun (x : Nat) => picture.pixel x y

/-! ### PNG -/

private def chunk (name : String) (bytes : List UInt8) : List UInt8 :=
  let named := name.toUTF8.toList ++ bytes
  bigEndian bytes.length ++ named ++ bigEndian (checksum named).toNat

/-- Bytes as blocks of at most 65535 bytes that are stored as they are. -/
private def storedBlocks (bytes : List UInt8) : List UInt8 :=
  let last := bytes.length ≤ 65535
  let block := bytes.take 65535
  let size := (littleEndian block.length).take 2
  let start := (if last then 1 else 0) :: size ++ size.map (~~~ ·)
  if _h : last then start ++ block else start ++ block ++ storedBlocks (bytes.drop 65535)
termination_by bytes.length
decreasing_by simp only [last] at _h; simp only [List.length_drop]; omega

private def adler (bytes : List UInt8) : Nat :=
  let (a, b) := bytes.foldl
    (fun (a, b) byte => let a := (a + byte.toNat) % 65521; (a, (b + a) % 65521)) (1, 0)
  b <<< 16 ||| a

private def pngBytes (picture : Picture) : List UInt8 :=
  let rows := (List.range picture.height).flatMap fun y =>
    0 :: (picture.row y).flatMap fun c => [c.red, c.green, c.blue]
  [0x89, 0x50, 0x4e, 0x47, 0x0d, 0x0a, 0x1a, 0x0a] ++
    chunk "IHDR" (bigEndian picture.width ++ bigEndian picture.height ++ [8, 2, 0, 0, 0]) ++
    chunk "IDAT" ([0x78, 0x01] ++ storedBlocks rows ++ bigEndian (adler rows)) ++
    chunk "IEND" []

/-! ### BMP -/

private def bmpBytes (picture : Picture) : List UInt8 :=
  let padding := List.replicate ((4 - picture.width * 3 % 4) % 4) 0
  let rows := (List.range picture.height).reverse.flatMap fun y =>
    ((picture.row y).flatMap fun c => [c.blue, c.green, c.red]) ++ padding
  [0x42, 0x4d] ++ littleEndian (54 + rows.length) ++ littleEndian 0 ++ littleEndian 54 ++
    littleEndian 40 ++ littleEndian picture.width ++ littleEndian picture.height ++ [1, 0, 24, 0] ++
    littleEndian 0 ++ littleEndian rows.length ++ littleEndian 3780 ++ littleEndian 3780 ++
    littleEndian 0 ++ littleEndian 0 ++ rows

def bytes (picture : Picture) (format : PictureFormat) : List UInt8 :=
  if format = .bmp then bmpBytes picture else pngBytes picture

end Picture

end RegionGrid
