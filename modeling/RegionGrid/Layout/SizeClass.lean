import RegionGrid.Number.FloatText

/-!
# Size classes

The classes of container widths that a layout tells apart, and the thresholds between them. A class
reaches up to its threshold, which belongs to the next class; the thresholds ascend.
-/

namespace RegionGrid

/-- A class of container widths, the smallest first. -/
inductive SizeClass where
  | compact
  | medium
  | expanded
  | large
  deriving DecidableEq, Repr

namespace SizeClass

def name : SizeClass → String
  | compact => "compact"
  | medium => "medium"
  | expanded => "expanded"
  | large => "large"

/-- The classes, the smallest first. -/
def all : List SizeClass := [compact, medium, expanded, large]

def ofName? (s : String) : Option SizeClass := all.find? (·.name == s)

end SizeClass

/-- The widths at which the first three classes end. -/
structure Breakpoints (α : Type) [LE α] where
  (compact medium expanded : α)
  compact_le_medium : compact ≤ medium
  medium_le_expanded : medium ≤ expanded

namespace Breakpoints

section

variable {α : Type} [LE α]

/-- The breakpoints at three widths, if these ascend. -/
def ofThresholds? [DecidableLE α] (compact medium expanded : α) : Option (Breakpoints α) :=
  if h : compact ≤ medium ∧ medium ≤ expanded then
    some ⟨compact, medium, expanded, h.1, h.2⟩
  else none

/-- The class of a width of which is known whether it is below a threshold. -/
def classify (b : Breakpoints α) (below : α → Bool) : SizeClass :=
  if below b.compact then .compact
  else if below b.medium then .medium
  else if below b.expanded then .expanded
  else .large

def sizeFor [LT α] [DecidableLT α] (b : Breakpoints α) (width : α) : SizeClass :=
  b.classify fun threshold => width < threshold

def equal [BEq α] (a b : Breakpoints α) : Bool :=
  a.compact == b.compact && a.medium == b.medium && a.expanded == b.expanded

end

/-- The class of a whole width, which is compared exactly. -/
def sizeForWhole (b : Breakpoints Float) (width : Nat) : SizeClass :=
  b.classify (Binary64.natLt width)

/-- The widths of phones, tablets and small desktops. -/
def default : Breakpoints Float where
  compact := 600
  medium := 840
  expanded := 1200
  compact_le_medium := by decide
  medium_le_expanded := by decide

/-- What is said about thresholds that do not ascend. -/
def descendingMessage (compact medium expanded : Float) : String :=
  s!"Breakpoints must be ascending, got {shortestText compact}, {shortestText medium}, " ++
    shortestText expanded

end Breakpoints

end RegionGrid
