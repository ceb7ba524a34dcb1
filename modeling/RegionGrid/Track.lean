import RegionGrid.Number.FloatText
import RegionGrid.Number.Numeral

/-!
# Track sizes

The size asked for one row or column of a grid: a fixed extent, a share of the space that the fixed
tracks leave, or whatever the content needs. Sizes are written as `120px`, `2fr` and `content`; a
reader also takes a bare number for a fixed extent, a bare `fr` for one share, and `auto`.

The type is open in its numbers: a program computes with doubles, and the laws of the grid hold over
exact numbers.
-/

namespace RegionGrid

inductive TrackSize (α : Type) where
  /-- An extent in logical pixels. -/
  | fixed (pixels : α)
  /-- A share of the free space, relative to the factors of the other tracks. -/
  | flex (factor : α)
  /-- As large as its content. Content is not measured: such a track takes one share. -/
  | content
  deriving BEq, Repr

namespace TrackSize

def text : TrackSize Float → String
  | fixed pixels => roundedText pixels ++ "px"
  | flex factor => roundedText factor ++ "fr"
  | content => "content"

/-- The track size that a trimmed lower-case text writes. -/
def ofChars? (s : List Char) : Option (TrackSize Float) :=
  if s = "content".toList ∨ s = "auto".toList then some content
  else match Numeral.read? s with
    | none => if s.dropWhile isBlank = ['f', 'r'] then some (flex 1.0) else none
    | some (numeral, rest) =>
      match rest.dropWhile isBlank with
      | [] | ['p', 'x'] => some (fixed numeral.toFloat)
      | ['f', 'r'] => some (flex numeral.toFloat)
      | _ => none

/--
The track size that a text writes. Case and blanks around the text do not matter. Lower case for the
ASCII letters is enough: no other letter has one of those of a track size as its lower case.
-/
def ofText? (s : String) : Option (TrackSize Float) :=
  ofChars? ((Chars.trim s.toList).map Char.toLower)

end TrackSize

end RegionGrid
