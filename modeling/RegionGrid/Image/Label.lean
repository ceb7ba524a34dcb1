import RegionGrid.Image.Error

/-!
# Labels

A region bears its name in the top left corner of its box, if it fits there. How large a name is and how it
looks is up to a font, and a font need not take every text.
-/

namespace RegionGrid

structure Font where
  /-- How far a text at the origin reaches to the right and down. -/
  extent : String → Except LibraryError (Float × Float)
  /-- What keeps a text from being drawn with its top left corner at a place. -/
  obstacle? : String → Float → Float → Option LibraryError

/-- A font in which no text is small enough to be drawn. -/
def Font.oversized : Font where
  extent _ := .ok (1 / 0, 1 / 0)
  obstacle? _ _ _ := none

/-- A text with its top left corner. -/
structure RegionLabel where
  text : String
  (left top : Float)

/-- How far a label stands from the sides of its box. -/
def RegionLabel.margin : Float := 4

end RegionGrid
