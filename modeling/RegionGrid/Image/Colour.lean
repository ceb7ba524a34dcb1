import RegionGrid.Image.Checksum
import RegionGrid.Image.Random
import RegionGrid.Text.CodePoint

/-!
# Colours

Colours, and the pastel colour that the name of a region decides.
-/

namespace RegionGrid

/--
A colour by its red, green and blue parts. How opaque it is tells it from other colours, and shows in
no picture.
-/
structure Colour where
  (red green blue : UInt8)
  opacity : UInt8 := 255
  deriving DecidableEq, Repr

namespace Colour

/-- A part of a colour; what is out of its range is cut off. -/
private def clipped (n : Int) : UInt8 := UInt8.ofNat (min n.toNat 255)

/--
The colour that numbers stand for: its three parts, possibly with its opacity, or one number that
holds them in its bytes.
-/
def ofNumbers? : List Int → Option Colour
  | [red, green, blue] => some ⟨clipped red, clipped green, clipped blue, 255⟩
  | [red, green, blue, opacity] => some ⟨clipped red, clipped green, clipped blue, clipped opacity⟩
  | [n] =>
    let byte (i : Nat) : UInt8 := UInt8.ofNat (n >>> (8 * i) % 256).toNat
    some ⟨byte 0, byte 1, byte 2, byte 3⟩
  | _ => none

/-- The colour of a region: three random parts between 120 and 229, seeded with its name. -/
def ofName (name : String) : Colour :=
  let parts := (Random.numbers (checksum (encoded name)) 16).filterMap (Random.below? 110)
  let part (i : Nat) : UInt8 := UInt8.ofNat (120 + parts.getD i 0)
  ⟨part 0, part 1, part 2, 255⟩

end Colour

end RegionGrid
