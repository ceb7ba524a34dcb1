import RegionGrid.Layout.SizeClass
import RegionGrid.Placement
import RegionGrid.Template
import RegionGrid.Value.Number

/-!
# Grid templates

The template for one size class: its rows, the sizes of its tracks, and the plan of the rows. The rows
of a grid template are valid: it carries the evidence that they compile to its plan.
-/

namespace RegionGrid

/-- A valid template with the sizes of its tracks. -/
structure GridTemplate (α : Type) where
  size : SizeClass
  rows : List String
  columnSizes : List (TrackSize α)
  rowSizes : List (TrackSize α)
  plan : Plan
  compiles : compile rows = .ok plan

namespace GridTemplate

variable {α : Type}

/-- The grid template with the given rows, if these are valid. -/
def ofRows (size : SizeClass) (rows : List String) (columnSizes rowSizes : List (TrackSize α)) :
    Except TemplateError (GridTemplate α) :=
  match h : compile rows with
  | .ok plan => .ok ⟨size, rows, columnSizes, rowSizes, plan, h⟩
  | .error e => .error e

/-- Whether two grid templates ask for the same: the plan follows from the rows. -/
def equal [BEq α] (a b : GridTemplate α) : Bool :=
  a.size == b.size && a.rows == b.rows && a.columnSizes == b.columnSizes && a.rowSizes == b.rowSizes

/-- The rectangles of the regions that are asked for in a container. -/
def place [Zero α] [One α] [Add α] [Sub α] [Mul α] [Div α] [LT α] [LE α] [DecidableLT α]
    [DecidableLE α] (template : GridTemplate α) (width height : α)
    (names : Option (List String) := none) : List (String × Rect α) :=
  layOut template.plan template.columnSizes template.rowSizes width height names

/-- Why values do not give a grid template. -/
inductive Error where
  | unknownSize (v : Value)
  | track (e : TrackError)
  | template (e : TemplateError)

/--
The grid template that values give. The size class is checked first, then the sizes of the columns
and of the rows, and the rows themselves last.
-/
def ofValues (size : Value) (rows : List String) (columns rowTracks : Value) :
    Except Error (GridTemplate Float) := do
  let sizeClass? := match size with
    | .string s => SizeClass.ofName? s
    | _ => none
  let some sizeClass := sizeClass? | throw (.unknownSize size)
  let columnSizes ← (TrackSize.listOfValue columns).mapError .track
  let rowSizes ← (TrackSize.listOfValue rowTracks).mapError .track
  (ofRows sizeClass rows columnSizes rowSizes).mapError .template

end GridTemplate

end RegionGrid
