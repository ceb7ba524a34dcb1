import RegionGrid.Log
import RegionGrid.Text.Blank

/-!
# Reports

The lines that the program prints for a placed layout: a heading, a rule, and one line for each
region. A list of names with commas says which regions are wanted.
-/

namespace RegionGrid

/-- The names in a list with commas; blank names do not count. -/
def wantedNames (list : String) : List String :=
  ((list.toList.splitOnP (· == ',')).map fun piece => String.ofList (Chars.trim piece)).filter
    (· ≠ "")

namespace Report

/-- The line that names the layout, the size of its container and the size class. -/
def heading (name : Value) (width height : Nat) (size : SizeClass) : String :=
  s!"Layout '{name.text}' at {width}x{height} ({size.name})"

def rule : String := String.ofList (List.replicate 40 '=')

def regionLine (name : String) (rect : Rect Float) : String :=
  s!"- {name}: x={roundedText rect.left} y={roundedText rect.top} " ++
    s!"w={roundedText rect.width} h={roundedText rect.height}"

end Report

end RegionGrid
