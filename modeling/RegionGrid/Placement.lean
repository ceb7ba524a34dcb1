import RegionGrid.Cell
import RegionGrid.Track.Resolve

/-!
# Placement

Where the cells of a plan lie once the tracks of both axes have their sizes. The edges of the tracks
are the prefix sums of their sizes, and a cell reaches from the edge before its first track to the
edge after its last one. Tracks that have no size take no room.
-/

namespace RegionGrid

variable {α : Type}

/-- A rectangle with its origin at the top left. -/
structure Rect (α : Type) where
  (left top width height : α)
  deriving DecidableEq, Repr

namespace Rect

variable [Add α]

/-- The edge on the right, which does not belong to the rectangle. -/
def right (rect : Rect α) : α := rect.left + rect.width

/-- The edge at the bottom, which does not belong to the rectangle. -/
def bottom (rect : Rect α) : α := rect.top + rect.height

def contains [LT α] [LE α] [DecidableLT α] [DecidableLE α] (rect : Rect α) (x y : α) : Bool :=
  rect.left ≤ x ∧ x < rect.right ∧ rect.top ≤ y ∧ y < rect.bottom

end Rect

section Edges

variable [Zero α] [Add α]

/-- The edges of the tracks: the start of the axis, and the end of every track. -/
def trackEdges (sizes : List α) : List α := sizes.scanl (· + ·) 0

theorem length_trackEdges (sizes : List α) : (trackEdges sizes).length = sizes.length + 1 :=
  List.length_scanl ..

/-- The edge before a track, or the end of the axis for a track past the end. -/
def edgeBefore (sizes : List α) (track : Nat) : α :=
  (trackEdges sizes).get ⟨min track sizes.length, by rw [length_trackEdges]; omega⟩

/-- Where a run of tracks starts, and how far it reaches. -/
def spanExtent [Sub α] (sizes : List α) (start span : Nat) : α × α :=
  (edgeBefore sizes start, edgeBefore sizes (start + span) - edgeBefore sizes start)

variable [Sub α]

def placeCell (cell : Cell) (columnSizes rowSizes : List α) : Rect α :=
  let (left, width) := spanExtent columnSizes cell.column cell.columnSpan
  let (top, height) := spanExtent rowSizes cell.row cell.rowSpan
  ⟨left, top, width, height⟩

/-! ### Places that count from the end -/

/-- An edge that there is not: its number, and how many edges there are. -/
structure NoEdge where
  edge : Int
  count : Nat
  deriving DecidableEq, Repr

def NoEdge.message (e : NoEdge) : String :=
  s!"index {e.edge} is out of bounds for axis 0 with size {e.count}"

/--
The edge with a number. What lies past the end of the axis is the end, and negative numbers count
from there: minus one is the end, too.
-/
def edgeAt (sizes : List α) (edge : Int) : Except NoEdge α :=
  let edges := trackEdges sizes
  let place := min edge sizes.length
  let fromStart := if place < 0 then place + edges.length else place
  if fromStart < 0 then .error ⟨place, edges.length⟩
  else (edges[fromStart.toNat]?).elim (.error ⟨place, edges.length⟩) .ok

omit [Sub α] in
theorem edgeAt_natCast (sizes : List α) (track : Nat) :
    edgeAt sizes track = .ok (edgeBefore sizes track) := by
  have hplace : min (track : Int) sizes.length = (min track sizes.length : Nat) := by omega
  have hlt : min track sizes.length < (trackEdges sizes).length := by
    rw [length_trackEdges]; omega
  have hpos : ¬ ((min track sizes.length : Nat) : Int) < 0 := by omega
  simp only [edgeAt, hplace, hpos, if_false, Int.toNat_natCast, List.getElem?_eq_getElem hlt,
    Option.elim_some, edgeBefore, List.get_eq_getElem]

/-- The rectangle of a cell whose place and spans may be negative. -/
def placeAt (row column rowSpan columnSpan : Int) (columnSizes rowSizes : List α) :
    Except NoEdge (Rect α) := do
  let left ← edgeAt columnSizes column
  let right ← edgeAt columnSizes (column + columnSpan)
  let top ← edgeAt rowSizes row
  let bottom ← edgeAt rowSizes (row + rowSpan)
  return ⟨left, top, right - left, bottom - top⟩

theorem placeAt_natCast (cell : Cell) (columnSizes rowSizes : List α) :
    placeAt cell.row cell.column cell.rowSpan cell.columnSpan columnSizes rowSizes =
      .ok (placeCell cell columnSizes rowSizes) := by
  simp only [placeAt, ← Int.natCast_add, edgeAt_natCast, placeCell, spanExtent]
  rfl

/-! ### Placing a plan -/

/-- Whether a region is asked for: every region is, unless names are given. -/
def isWanted (names : Option (List String)) (name : String) : Bool :=
  names.all (·.contains name)

/-- The rectangles of the regions that are asked for, in reading order. -/
def placeCells (plan : Plan) (columnSizes rowSizes : List α)
    (names : Option (List String) := none) : List (String × Rect α) :=
  (plan.inReadingOrder.filter (isWanted names ·.name)).map fun cell =>
    (cell.name, placeCell cell columnSizes rowSizes)

end Edges

/-- Resolves both axes of a plan and places its regions. -/
def layOut [Zero α] [One α] [Add α] [Sub α] [Mul α] [Div α] [LT α] [LE α] [DecidableLT α]
    [DecidableLE α] (plan : Plan) (columnSpecs rowSpecs : List (TrackSize α)) (width height : α)
    (names : Option (List String) := none) : List (String × Rect α) :=
  placeCells plan (resolve columnSpecs width plan.columnCount)
    (resolve rowSpecs height plan.rowCount) names

end RegionGrid
