import RegionGrid.Cell
import RegionGrid.Text.Blank

/-!
# Templates

A template draws a grid with text: one string a row, one word a position. Equal words are one region,
which must fill a rectangle; the word `.` leaves its position free. Compiling a template checks this
and gives the plan of its cells.

Regions are found by whole words. Inside the bounding box of a region, a word is first compared with
the NUL characters at its end left out, so that two regions whose names differ in those alone look
alike there; the count of the region's own positions tells them apart.
-/

namespace RegionGrid

def placeholder : String := "."

inductive TemplateError where
  /-- No word of the first row names a region. -/
  | nothingNamed
  /-- A row has not as many words as the first one. -/
  | raggedRow (row actual expected : Nat)
  /-- A position in the bounding box of a region holds another word. -/
  | brokenRegion (name : String) (row column : Nat) (found : String)
  /-- The bounding box of a region holds a word that only looks like its name. -/
  | wrongArea (name : String) (area count : Nat)
  deriving DecidableEq, Repr

namespace TemplateError

/-- How every error about the shape of a region starts. -/
def notRectangular (name : String) : String :=
  s!"Invalid template: cells for \"{name}\" must form a contiguous rectangular block."

def message : TemplateError → String
  | nothingNamed => "Template rows must contain at least one non-empty region name."
  | raggedRow row actual expected =>
    "All rows in the template must have the same number of columns. " ++
      s!"Row {row} has {actual} columns, expected {expected}."
  | brokenRegion name row column found =>
    notRectangular name ++
      s!" Discrepancy at row {row}, column {column}. Found \"{found}\", expected \"{name}\"."
  | wrongArea name area count =>
    notRectangular name ++
      s!" Calculated area ({area}) does not match actual cells found ({count})."

end TemplateError

/-- The words of a template, row by row. -/
abbrev TokenGrid := List (List String)

namespace TokenGrid

/-- The positions of a grid with their words, row by row. -/
def entries (grid : TokenGrid) : List ((Nat × Nat) × String) :=
  grid.zipIdx.flatMap fun (row, r) => row.zipIdx.map fun (word, c) => ((r, c), word)

def word? (grid : TokenGrid) (position : Nat × Nat) : Option String :=
  grid[position.1]?.bind (·[position.2]?)

/-- The names of the regions in the order in which they are first read. -/
def regionNames (grid : TokenGrid) : List String :=
  ((grid.entries.map (·.2)).filter (· ≠ placeholder)).eraseDups

/-- The positions that hold a word, row by row. -/
def positionsOf (grid : TokenGrid) (name : String) : List (Nat × Nat) :=
  (grid.entries.filter (·.2 = name)).map (·.1)

end TokenGrid

/-- A rectangle of positions, the last row and column included. -/
structure Box where
  (firstRow firstColumn lastRow lastColumn : Nat)
  deriving DecidableEq, Repr

namespace Box

/-- The smallest box that holds a position and a list of others. -/
def around (first : Nat × Nat) (others : List (Nat × Nat)) : Box :=
  others.foldl
    (fun box (r, c) =>
      ⟨min box.firstRow r, min box.firstColumn c, max box.lastRow r, max box.lastColumn c⟩)
    ⟨first.1, first.2, first.1, first.2⟩

def cell (box : Box) (name : String) : Cell where
  name
  row := box.firstRow
  column := box.firstColumn
  rowSpan := box.lastRow + 1 - box.firstRow
  columnSpan := box.lastColumn + 1 - box.firstColumn

end Box

/-- The characters of a word without the NUL characters at its end. -/
def withoutTrailingNuls (word : String) : List Char :=
  (word.toList.reverse.dropWhile (· == '\x00')).reverse

/-- Whether two words are equal but for NUL characters at their ends. -/
def looksLike (a b : String) : Bool := withoutTrailingNuls a == withoutTrailingNuls b

/-- The cell of one region, if the region fills its bounding box. -/
def regionCell (grid : TokenGrid) (name : String) : Except TemplateError Cell :=
  match grid.positionsOf name with
  | [] => .error .nothingNamed
  | first :: others =>
    let cell := (Box.around first others).cell name
    let area := cell.rowSpan * cell.columnSpan
    let other? := cell.positions.findSome? fun position =>
      (grid.word? position).bind fun found =>
        if looksLike found name then none else some (position, found)
    match other? with
    | some ((row, column), found) => .error (.brokenRegion name row column found)
    | none =>
      if area = others.length + 1 then .ok cell
      else .error (.wrongArea name area (others.length + 1))

def compileTokens (grid : TokenGrid) : Except TemplateError Plan :=
  match grid with
  | [] => .ok .empty
  | firstRow :: _ =>
    if firstRow.all (· = placeholder) then .error .nothingNamed
    else match grid.zipIdx.find? fun (row, _) => row.length ≠ firstRow.length with
      | some (row, r) => .error (.raggedRow r row.length firstRow.length)
      | none => do
        let cells ← grid.regionNames.mapM (regionCell grid)
        return ⟨grid.length, firstRow.length, cells⟩

def tokenize (rows : List String) : TokenGrid := rows.map words

/-- The plan of a template. A template without rows has the empty plan. -/
def compile (rows : List String) : Except TemplateError Plan := compileTokens (tokenize rows)

end RegionGrid
