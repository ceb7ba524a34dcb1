import RegionGrid.Template

/-!
# Drawing plans

Writes a plan as a template: each position holds the name of the cell that covers it, or the
placeholder, and the words of a row are separated by a space. Drawing is the other way of compiling.
-/

namespace RegionGrid

def Cell.covers (cell : Cell) (row column : Nat) : Bool :=
  cell.row ≤ row && row < cell.row + cell.rowSpan &&
    cell.column ≤ column && column < cell.column + cell.columnSpan

namespace Plan

/-- The word at a position: the name of the first cell that covers it, or the placeholder. -/
def wordAt (plan : Plan) (row column : Nat) : String :=
  ((plan.cells.find? (·.covers row column)).map Cell.name).getD placeholder

def grid (plan : Plan) : TokenGrid :=
  (List.range plan.rowCount).map fun row => (List.range plan.columnCount).map (plan.wordAt row)

end Plan

/-- The rows that hold the words of a grid. -/
def TokenGrid.rows (grid : TokenGrid) : List String := grid.map fun row => " ".intercalate row

/-- A template for the plan. -/
def Plan.rows (plan : Plan) : List String := plan.grid.rows

end RegionGrid
