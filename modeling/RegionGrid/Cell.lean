/-!
# Cells

A named rectangular block of grid positions, and the set of cells that a template stands for.
Positions are pairs of a row and a column, both counted from zero.
-/

namespace RegionGrid

structure Cell where
  name : String
  row : Nat
  column : Nat
  rowSpan : Nat := 1
  columnSpan : Nat := 1
  deriving DecidableEq, Repr

namespace Cell

/-- The last row of a block that has one. -/
def lastRow (cell : Cell) : Nat := cell.row + cell.rowSpan - 1

/-- The last column of a block that has one. -/
def lastColumn (cell : Cell) : Nat := cell.column + cell.columnSpan - 1

/-- The positions of a block, row by row. -/
def positions (cell : Cell) : List (Nat × Nat) :=
  (List.range' cell.row cell.rowSpan).flatMap fun r =>
    (List.range' cell.column cell.columnSpan).map fun c => (r, c)

/-- Whether a cell starts no later than another when a grid is read row by row. -/
def startsBefore (a b : Cell) : Bool :=
  a.row < b.row || (a.row == b.row && a.column ≤ b.column)

end Cell

/-- What a valid template stands for: the size of its grid, and its cells in no particular order. -/
structure Plan where
  rowCount : Nat
  columnCount : Nat
  cells : List Cell
  deriving DecidableEq, Repr

namespace Plan

def empty : Plan := ⟨0, 0, []⟩

def isEmpty (plan : Plan) : Bool := plan.rowCount == 0

def names (plan : Plan) : List String := plan.cells.map Cell.name

def contains (plan : Plan) (name : String) : Bool := plan.cells.any (·.name == name)

def cell? (plan : Plan) (name : String) : Option Cell := plan.cells.find? (·.name == name)

/-- The cells in the order in which they start when the grid is read row by row. -/
def inReadingOrder (plan : Plan) : List Cell := plan.cells.mergeSort Cell.startsBefore

end Plan

end RegionGrid
