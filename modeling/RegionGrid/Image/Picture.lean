import RegionGrid.Image.Colour
import RegionGrid.Image.Label
import RegionGrid.Number.Binary64
import RegionGrid.Placement

/-!
# Pictures

A picture of placed regions: one filled and outlined box for each region that has an area, drawn in
order on a background. A box lies inside its region, by a gap on every side, so that the boxes of
neighbours stay apart; it keeps at least one pixel.

A picture is its list of boxes. The colour of a pixel is that of the last box drawn on it. On top of
its box a region is labelled with its name, if there is room. The labels of a picture are listed apart:
what they look like is up to the font, and colours are told of pixels that no label covers.
-/

namespace RegionGrid

/-- A box of pixels, from its first column and row to its last. -/
structure PixelBox where
  (left top right bottom : Int)
  deriving DecidableEq, Repr

namespace PixelBox

def contains (box : PixelBox) (x y : Int) : Bool :=
  box.left ≤ x && x ≤ box.right && box.top ≤ y && y ≤ box.bottom

/--
Whether a pixel lies on the outline of the box. The sides are drawn from the row after the first one,
even if that is below the box.
-/
def outlines (box : PixelBox) (x y : Int) : Bool :=
  ((y == box.top || y == box.bottom) && box.left ≤ x && x ≤ box.right) ||
    ((x == box.left || x == box.right) &&
      min (box.top + 1) box.bottom ≤ y && y ≤ max (box.top + 1) box.bottom)

end PixelBox

structure DrawingStyle (α : Type) where
  gap : α
  background : Colour := ⟨245, 245, 245, 255⟩
  outline : Colour := ⟨40, 40, 40, 255⟩

/-- The style of the program: a gap of two pixels. -/
def DrawingStyle.standard : DrawingStyle Float := { gap := 2 }

/--
The pixel coordinate that a double is cut to. Coordinates have 32 bits; what does not fit into them
is the lowest one.
-/
def pixelCoordinate (x : Float) : Int :=
  let lowest : Int := -0x80000000
  match Binary64.truncate? x with
  | some n => if lowest ≤ n ∧ n < -lowest then n else lowest
  | none => lowest

section

variable {α : Type} [Zero α] [One α] [Add α] [Sub α] [LT α] [LE α] [DecidableLT α] [DecidableLE α]

/-- The larger of two numbers, and the first one if they cannot be told apart. -/
def larger (x y : α) : α := if x < y then y else x

/--
The box of a region, which has none without an area; `whole` cuts a coordinate to a pixel. The rows
are put into their order, should the cut have changed it.
-/
def boxOf? (whole : α → Int) (gap : α) (rect : Rect α) : Option PixelBox :=
  if rect.width ≤ 0 ∨ rect.height ≤ 0 then none
  else
    let left := rect.left + gap
    let top := rect.top + gap
    let bottom := larger (rect.bottom - gap - 1) top
    some
      { left := whole left
        top := min (whole top) (whole bottom)
        right := whole (larger (rect.right - gap - 1) left)
        bottom := max (whole top) (whole bottom) }

end

/-- A picture as the boxes that are drawn on it, with their colours, and its labels. -/
structure Picture where
  (width height : Nat)
  (background outline : Colour)
  boxes : List (PixelBox × Colour)
  labels : List RegionLabel := []

namespace Picture

/-- Draws one box over a pixel of the given colour. -/
def drawn (outline : Colour) (x y : Int) (under : Colour) (box : PixelBox × Colour) :
    Colour :=
  if outline ≠ box.2 ∧ box.1.outlines x y then outline
  else if box.1.contains x y then box.2
  else under

/-- The colour of a pixel, labels aside. -/
def pixel (picture : Picture) (x y : Int) : Colour :=
  picture.boxes.foldl (drawn picture.outline x y) picture.background

def ofRects {α : Type} [Zero α] [One α] [Add α] [Sub α] [LT α] [LE α] [DecidableLT α]
    [DecidableLE α] (whole : α → Int) (style : DrawingStyle α) (width height : Int)
    (rects : List (String × Rect α)) : Except PictureError Picture :=
  match sizeError? width height with
  | some e => .error e
  | none =>
    .ok
      { width := width.toNat
        height := height.toNat
        background := style.background
        outline := style.outline
        boxes := rects.filterMap fun (name, rect) =>
          (boxOf? whole style.gap rect).map fun box => (box, Colour.ofName name) }

section

variable {α : Type} [Zero α] [One α] [Add α] [Sub α] [LT α] [LE α] [DecidableLT α] [DecidableLE α]
  {whole : α → Int} {style : DrawingStyle α} {width height : Int} {rects : List (String × Rect α)}

theorem ofRects_eq_error_iff {e : PictureError} :
    ofRects whole style width height rects = .error e ↔ sizeError? width height = some e := by
  rw [ofRects]
  cases sizeError? width height <;> simp

theorem exists_ofRects_eq_ok (hsize : sizeError? width height = none) :
    ∃ picture, ofRects whole style width height rects = .ok picture := by
  rw [ofRects, hsize]
  exact ⟨_, rfl⟩

end

/--
The picture of placed regions with colours given by numbers. The colour of outlines matters only if
there is a box.
-/
def ofNumbers {α : Type} [Zero α] [One α] [Add α] [Sub α] [LT α] [LE α] [DecidableLT α]
    [DecidableLE α] (whole : α → Int) (gap : α) (background outline : List Int) (width height : Int)
    (rects : List (String × Rect α)) : Except PictureError Picture := do
  let style : DrawingStyle α := { gap }
  let picture ← ofRects whole style width height rects
  let some background := Colour.ofNumbers? background | throw .noColour
  match Colour.ofNumbers? outline with
  | some outline => return { picture with background, outline }
  | none => if picture.boxes.isEmpty then return { picture with background } else throw .noColour

/-! ### Labels -/

/--
The label of a region whose name reaches so far to the right and down, if the box of the region has room
for it.
-/
def labelIn? (gap : Float) (name : String) (rect : Rect Float) (extent : Float × Float) : Option RegionLabel :=
  let left := rect.left + gap
  let top := rect.top + gap
  let width := larger (rect.right - gap - 1) left - left
  let height := larger (rect.bottom - gap - 1) top - top
  let margin := RegionLabel.margin
  if extent.1 + 2 * margin ≤ width ∧ extent.2 + 2 * margin ≤ height then some ⟨name, left + margin, top + margin⟩
  else none

/--
The label of a region, if it has one. A region with an area needs a colour first, for which its name must
have a UTF-8 form.
-/
def labelOf? (font : Font) (gap : Float) (name : String) (rect : Rect Float) :
    Except PictureError (Option RegionLabel) := do
  if rect.width ≤ 0 ∨ rect.height ≤ 0 then return none
  unless isEncodable name do throw (.unencodableName name)
  let extent ← (font.extent name).mapError .library
  let label? := labelIn? gap name rect extent
  match label?.bind fun label => font.obstacle? label.text label.left label.top with
  | some e => throw (.library e)
  | none => return label?

/-- The labels of placed regions, or what is wrong with the first region that cannot be drawn. -/
def labelsOf (font : Font) (gap : Float) (rects : List (String × Rect Float)) :
    Except PictureError (List RegionLabel) := do
  let labels ← rects.mapM fun region => labelOf? font gap region.1 region.2
  return labels.filterMap id

end Picture

end RegionGrid
