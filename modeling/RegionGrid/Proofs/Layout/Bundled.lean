import RegionGrid.Bundled
import RegionGrid.Proofs.Layout.Roomy
import RegionGrid.Proofs.Number.Exact

/-!
# The bundled layouts over exact numbers

A layout computes with doubles, and the laws of the grid hold over exact numbers. If its doubles are finite, the
layout stands for one over the numbers that they stand for, which chooses the same templates. Main statement: over
exact numbers, each layout that comes with the program covers every container that is as high as the fixed rows of
its template, up to the free positions.
-/

namespace RegionGrid

open Binary64 (StandsFor)

/-! ### The layout that a layout stands for -/

/-- The number that a double stands for, if it is finite. -/
def exactNumber? (x : Float) : Option ℚ := Binary64.value? (.ofFloat x)

def TrackSize.exactNumbers? : TrackSize Float → Option (TrackSize ℚ)
  | fixed pixels => (exactNumber? pixels).map fixed
  | flex factor => (exactNumber? factor).map flex
  | content => some content

def GridTemplate.exactNumbers? (template : GridTemplate Float) : Option (GridTemplate ℚ) := do
  let columnSizes ← template.columnSizes.mapM TrackSize.exactNumbers?
  let rowSizes ← template.rowSizes.mapM TrackSize.exactNumbers?
  return { template with columnSizes, rowSizes }

def Breakpoints.exactNumbers? (b : Breakpoints Float) : Option (Breakpoints ℚ) := do
  let compact ← exactNumber? b.compact
  let medium ← exactNumber? b.medium
  let expanded ← exactNumber? b.expanded
  ofThresholds? compact medium expanded

def AdaptiveLayout.exactNumbers? (layout : AdaptiveLayout Float) : Option (AdaptiveLayout ℚ) := do
  let breakpoints ← layout.breakpoints.exactNumbers?
  let templates ← layout.templates.mapM fun entry => entry.2.exactNumbers?.map (entry.1, ·)
  return ⟨layout.name, breakpoints, templates⟩

section

variable {width : Float} {q : ℚ} (hwidth : StandsFor width q)

include hwidth

theorem Breakpoints.sizeFor_of_exactNumbers? {b : Breakpoints Float} {exact : Breakpoints ℚ}
    (hexact : b.exactNumbers? = some exact) : exact.sizeFor q = b.sizeFor width := by
  obtain ⟨compact, hcompact, hexact⟩ := Option.bind_eq_some_iff.mp hexact
  obtain ⟨medium, hmedium, hexact⟩ := Option.bind_eq_some_iff.mp hexact
  obtain ⟨expanded, hexpanded, hexact⟩ := Option.bind_eq_some_iff.mp hexact
  rw [ofThresholds?] at hexact
  split at hexact
  · cases hexact
    simp only [sizeFor, classify, decide_eq_true_eq, hwidth.lt_iff hcompact, hwidth.lt_iff hmedium,
      hwidth.lt_iff hexpanded]
  · cases hexact

/-- A layout and the one that it stands for choose the same template. -/
theorem AdaptiveLayout.templateFor?_of_exactNumbers? {layout : AdaptiveLayout Float} {exact : AdaptiveLayout ℚ}
    (hexact : layout.exactNumbers? = some exact) :
    exact.templateFor? q = (layout.templateFor? width).bind GridTemplate.exactNumbers? := by
  obtain ⟨breakpoints, hbreakpoints, hexact⟩ := Option.bind_eq_some_iff.mp hexact
  obtain ⟨templates, htemplates, hexact⟩ := Option.bind_eq_some_iff.mp hexact
  cases hexact
  rw [templateFor?, templateFor?, template?, template?, lookup_of_mapM htemplates, sizeFor, sizeFor,
    Breakpoints.sizeFor_of_exactNumbers? hwidth hbreakpoints]

end

/-! ### The layouts that come with the program -/

namespace Bundled

def exactLayout? (b : Bundled) : Option (AdaptiveLayout ℚ) := b.layout.toOption.bind AdaptiveLayout.exactNumbers?

/-- The least width of each class of a bundled layout has room for the fixed columns of its template. -/
theorem exists_roomy (b : Bundled) : ∃ layout ∈ b.exactLayout?, layout.Roomy := by
  cases b with
  | holyGrail => decide +kernel
  | dashboard => decide +kernel

/--
A bundled layout has a template for every positive width. In a container that is as high as the fixed rows of that
template, each of its regions has one rectangle; these lie in the container, no two of them have a point in common,
and they have its area but for that of the free positions.
-/
theorem place_tiles (b : Bundled) {width : ℚ} (hwidth : 0 < width) :
    ∃ layout template, b.exactLayout? = some layout ∧ layout.templateFor? width = some template ∧
      ∀ height, fixedSum template.rowSizes ≤ height → (layout.place width height).missing = none ∧
        template.Tiles width height (layout.place width height).rects := by
  obtain ⟨layout, hlayout, hroomy⟩ := b.exists_roomy
  obtain ⟨template, htemplate, htiles⟩ := hroomy.exists_tiles hwidth
  exact ⟨layout, template, hlayout, htemplate, htiles⟩

/-- At the least width with a free position, in a container that has the height of the fixed rows alone. -/
theorem place_tiles_dashboard :
    (0 : ℚ) < 1400 ∧ ∃ layout, dashboard.exactLayout? = some layout ∧
      ((layout.place 1400 (56 + 32)).rects.map fun region => region.2.area).sum =
        1400 * (56 + 32) - 280 * 32 := by
  have hwidth : (0 : ℚ) < 1400 := by decide
  obtain ⟨layout, template, hlayout, htemplate, htiles⟩ := place_tiles dashboard hwidth
  have hchosen : (dashboard.exactLayout?.bind (·.templateFor? 1400)) = some template := by
    rw [hlayout]
    exact htemplate
  have hchecked : (dashboard.exactLayout?.bind (·.templateFor? 1400)).all fun template =>
      fixedSum template.rowSizes = 56 + 32 ∧
        (((tokenize template.rows).positionsOf placeholder).map
          (positionArea (resolve template.columnSizes 1400 template.plan.columnCount)
            (resolve template.rowSizes (56 + 32) template.plan.rowCount))).sum = 280 * 32 := by decide +kernel
  rw [hchosen, Option.all_some, decide_eq_true_eq] at hchecked
  obtain ⟨hrows, hfree⟩ := hchecked
  refine ⟨hwidth, layout, hlayout, ?_⟩
  rw [(htiles _ hrows.le).2.area_eq, hfree]

end Bundled

end RegionGrid
