import RegionGrid.Layout.GridTemplate

/-!
# Adaptive layouts

A layout has a grid template for some of the size classes, and places the regions of the template
for the class of the container's width. A container without area has no regions. Neither has one whose
class has no template; that is worth a warning, so it is part of the answer.
-/

namespace RegionGrid

/-- A named set of grid templates, keyed by size class, with the widths that part the classes. -/
structure AdaptiveLayout (α : Type) [LE α] where
  name : Value
  breakpoints : Breakpoints α
  templates : List (SizeClass × GridTemplate α)

/-- The rectangles of the placed regions, and the size class that would have needed a template. -/
structure Placed (α : Type) where
  rects : List (String × Rect α)
  missing : Option SizeClass := none

namespace AdaptiveLayout

variable {α : Type} [LE α]

/-- The layout of a sequence of grid templates; of two for one size class the last one counts. -/
def ofTemplates (name : Value) (breakpoints : Breakpoints α) (templates : List (GridTemplate α)) :
    AdaptiveLayout α :=
  ⟨name, breakpoints, Assoc.ofList (templates.map fun t => (t.size, t))⟩

def template? (layout : AdaptiveLayout α) (size : SizeClass) : Option (GridTemplate α) :=
  layout.templates.lookup size

variable [LT α] [DecidableLT α]

def sizeFor (layout : AdaptiveLayout α) (width : α) : SizeClass := layout.breakpoints.sizeFor width

def templateFor? (layout : AdaptiveLayout α) (width : α) : Option (GridTemplate α) :=
  layout.template? (layout.sizeFor width)

/-- The rectangles of the regions that are asked for in a container. -/
def place [Zero α] [One α] [Add α] [Sub α] [Mul α] [Div α] [DecidableLE α]
    (layout : AdaptiveLayout α) (width height : α) (names : Option (List String) := none) :
    Placed α :=
  if width ≤ 0 ∨ height ≤ 0 then ⟨[], none⟩
  else match layout.templateFor? width with
    | none => ⟨[], some (layout.sizeFor width)⟩
    | some template => ⟨template.place width height names, none⟩

end AdaptiveLayout

end RegionGrid
