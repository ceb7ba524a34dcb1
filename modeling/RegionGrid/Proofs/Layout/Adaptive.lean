import RegionGrid.Log
import RegionGrid.Proofs.Assoc
import RegionGrid.Proofs.Definition.Accepted

/-!
# Layouts that choose a template by width

The thresholds cut the widths into one half-open interval for each size class, and a width belongs to the class
of its interval; NaN lies in none and counts as large. Main statement: a layout places the regions of the last
template that it was given for the class of the width, as if that template was compiled and laid out then and
there.
-/

namespace RegionGrid

/-! ### Classes of widths -/

namespace Breakpoints

section

variable {α : Type} [LE α]

/-- A width lies in the interval of a size class, whose end belongs to the next one. -/
def Spans [LT α] (b : Breakpoints α) (size : SizeClass) (width : α) : Prop :=
  match size with
  | .compact => width < b.compact
  | .medium => b.compact ≤ width ∧ width < b.medium
  | .expanded => b.medium ≤ width ∧ width < b.expanded
  | .large => b.expanded ≤ width

/-- What is below more thresholds is in no larger class. -/
theorem classify_mono (b : Breakpoints α) {narrow wide : α → Bool}
    (hbelow : ∀ threshold, wide threshold = true → narrow threshold = true) :
    SizeClass.all.idxOf (b.classify narrow) ≤ SizeClass.all.idxOf (b.classify wide) := by
  rw [classify, classify]
  by_cases hcompact : wide b.compact = true
  · rw [if_pos hcompact, if_pos (hbelow _ hcompact)]
  · rw [if_neg hcompact]
    by_cases hmedium : wide b.medium = true
    · rw [if_pos hmedium, if_pos (hbelow _ hmedium)]
      split <;> decide
    · rw [if_neg hmedium]
      by_cases hexpanded : wide b.expanded = true
      · rw [if_pos hexpanded, if_pos (hbelow _ hexpanded)]
        split
        · decide
        · split <;> decide
      · rw [if_neg hexpanded]
        split
        · decide
        · split
          · decide
          · split <;> decide

end

variable {b : Breakpoints Float} {width : Float} {size : SizeClass}

theorem Spans.not_nan (hspans : b.Spans size width) : width.isNaN = false := by
  cases size with
  | compact => exact (Binary64.not_nan_of_lt hspans).1
  | medium => exact (Binary64.not_nan_of_lt hspans.2).1
  | expanded => exact (Binary64.not_nan_of_lt hspans.2).1
  | large => exact (Binary64.not_nan_of_le hspans).2

theorem sizeFor_eq_iff_spans (hwidth : width.isNaN = false) :
    b.sizeFor width = size ↔ b.Spans size width := by
  obtain ⟨hcompact, hmedium, hexpanded⟩ := b.not_nan
  have hmediumOfCompact : width < b.compact → width < b.medium := fun hlt =>
    Binary64.lt_of_lt_of_le hlt b.compact_le_medium
  have hexpandedOfMedium : width < b.medium → width < b.expanded := fun hlt =>
    Binary64.lt_of_lt_of_le hlt b.medium_le_expanded
  simp only [sizeFor, classify, decide_eq_true_eq, Spans, ← Binary64.not_lt_iff_le hwidth hcompact,
    ← Binary64.not_lt_iff_le hwidth hmedium, ← Binary64.not_lt_iff_le hwidth hexpanded]
  cases size with
  | compact => grind
  | medium => grind
  | expanded => grind
  | large => grind

theorem sizeFor_of_nan (hwidth : width.isNaN = true) : b.sizeFor width = .large := by
  have hnot : ∀ threshold, ¬ width < threshold := fun threshold hlt => by
    rw [(Binary64.not_nan_of_lt hlt).1] at hwidth
    cases hwidth
  simp [sizeFor, classify, hnot]

/-- Each width belongs to the class of its interval; NaN, which lies in none, is large. -/
theorem sizeFor_eq_iff :
    b.sizeFor width = size ↔ b.Spans size width ∨ width.isNaN = true ∧ size = .large := by
  cases hwidth : width.isNaN with
  | false => simp [sizeFor_eq_iff_spans hwidth]
  | true =>
    have hspans : ¬ b.Spans size width := fun hspans => by
      rw [hspans.not_nan] at hwidth
      cases hwidth
    simp [hspans, sizeFor_of_nan hwidth, eq_comm]

theorem sizeFor_mono {wider : Float} (hwidths : width ≤ wider) :
    SizeClass.all.idxOf (b.sizeFor width) ≤ SizeClass.all.idxOf (b.sizeFor wider) := by
  refine classify_mono b fun threshold hbelow => ?_
  exact decide_eq_true (Binary64.lt_of_le_of_lt hwidths (of_decide_eq_true hbelow))

end Breakpoints

/-! ### Layouts and their templates -/

namespace GridTemplate

variable {α : Type} {templates : List (GridTemplate α)} {size : SizeClass} {t : GridTemplate α}

/-- The last template in a list for a size class. -/
def IsLastFor (templates : List (GridTemplate α)) (size : SizeClass) (t : GridTemplate α) : Prop :=
  ∃ before after, templates = before ++ t :: after ∧ t.size = size ∧ ∀ u ∈ after, u.size ≠ size

theorem find?_reverse_eq_some_iff :
    templates.reverse.find? (·.size = size) = some t ↔ IsLastFor templates size t := by
  rw [List.find?_eq_some_iff_append, IsLastFor]
  constructor
  · rintro ⟨hsize, after, before, hsplit, hafter⟩
    refine ⟨before.reverse, after.reverse, ?_, of_decide_eq_true hsize, fun u hu => ?_⟩
    · rw [← List.reverse_reverse templates, hsplit]
      simp
    · simpa using hafter u (List.mem_reverse.mp hu)
  · rintro ⟨before, after, rfl, hsize, hafter⟩
    refine ⟨decide_eq_true hsize, after.reverse, before.reverse, by simp, fun u hu => ?_⟩
    simpa using hafter u (List.mem_reverse.mp hu)

theorem find?_reverse_eq_none_iff :
    templates.reverse.find? (·.size = size) = none ↔ ∀ t ∈ templates, t.size ≠ size := by
  simp [List.find?_eq_none]

end GridTemplate

namespace AdaptiveLayout

open GridTemplate (IsLastFor)

/--
The layouts that there are, with the templates that they are made from: a sequence of them, or those of the
entries of a definition, whose keys are distinct as in every mapping.
-/
inductive MadeFrom : List (GridTemplate Float) → AdaptiveLayout Float → Prop
  | sequence (name : Value) (breakpoints : Breakpoints Float) (templates : List (GridTemplate Float)) :
      MadeFrom templates (ofTemplates name breakpoints templates)
  | definition {definition defaultName : Value} {layout : AdaptiveLayout Float}
      (hlayout : Definition.layout definition defaultName = .ok layout)
      (hkeys : ∀ o, Definition.outline definition defaultName = .ok o →
        (o.entries.map Prod.fst).Pairwise fun a b => a.sameKey b = false) :
      MadeFrom (layout.templates.map Prod.snd) layout

private theorem lookup_map_size (templates : List (GridTemplate Float)) (size : SizeClass) :
    (templates.map fun t => (t.size, t)).lookup size = templates.find? (·.size = size) := by
  induction templates with
  | nil => rfl
  | cons t templates ih =>
    rw [List.map_cons, List.lookup_cons, List.find?_cons, ih]
    by_cases hsize : t.size = size
    · simp [hsize]
    · rw [beq_eq_false_iff_ne.mpr (Ne.symm hsize)]
      simp [hsize]

theorem template?_ofTemplates (name : Value) (breakpoints : Breakpoints Float)
    (templates : List (GridTemplate Float)) (size : SizeClass) :
    (ofTemplates name breakpoints templates).template? size =
      templates.reverse.find? (·.size = size) := by
  rw [template?, ofTemplates, lookup_ofList, ← List.map_reverse, lookup_map_size]

theorem size_eq_of_givesTemplate {size : SizeClass} {v : Value} {t : GridTemplate Float}
    (hgives : Definition.GivesTemplate size v t) : t.size = size := by
  cases hgives with
  | built label? htemplate hrows hbuilt => exact (GridTemplate.ofValues_eq_ok_iff.mp hbuilt).2.2.1

private theorem entries_of_templates {entries : List (Value × Value)}
    {templates : List (SizeClass × GridTemplate Float)}
    (htemplates : List.Forall₂
      (fun e t => e.1 = .string t.1.name ∧ Definition.GivesTemplate t.1 e.2 t.2) entries templates) :
    entries.map Prod.fst = templates.map (fun t => .string t.1.name) ∧
      (templates.map Prod.snd).map (fun t => (t.size, t)) = templates := by
  induction htemplates with
  | nil => exact ⟨rfl, rfl⟩
  | cons hentry _ ih =>
    obtain ⟨hkey, hgives⟩ := hentry
    simp only [List.map_cons, ih, hkey, size_eq_of_givesTemplate hgives, and_self]

/-- What a definition describes is made from its templates. -/
theorem eq_ofTemplates_of_layout {definition defaultName : Value} {layout : AdaptiveLayout Float}
    (hlayout : Definition.layout definition defaultName = .ok layout)
    (hkeys : ∀ o, Definition.outline definition defaultName = .ok o →
      (o.entries.map Prod.fst).Pairwise fun a b => a.sameKey b = false) :
    layout = ofTemplates layout.name layout.breakpoints (layout.templates.map Prod.snd) := by
  simp only [Definition.layout, bind_eq_ok_iff, mapM_eq_ok_iff, Definition.entry_eq_ok_iff] at hlayout
  obtain ⟨o, houtline, templates, htemplates, hok⟩ := hlayout
  cases hok
  obtain ⟨hnames, hpairs⟩ := entries_of_templates htemplates
  have hsizes : (templates.map Prod.fst).Nodup := by
    have hdistinct := hkeys o houtline
    rw [hnames, List.pairwise_map] at hdistinct
    refine List.pairwise_map.mpr (hdistinct.imp fun {a b} hkey heq => ?_)
    simp [Value.sameKey, heq] at hkey
  rw [ofTemplates, hpairs, ofList_eq_self hsizes]

theorem MadeFrom.eq_ofTemplates {templates : List (GridTemplate Float)} {layout : AdaptiveLayout Float}
    (hmade : MadeFrom templates layout) : layout = ofTemplates layout.name layout.breakpoints templates := by
  cases hmade with
  | sequence => rfl
  | definition hlayout hkeys => exact eq_ofTemplates_of_layout hlayout hkeys

theorem MadeFrom.template? {templates : List (GridTemplate Float)} {layout : AdaptiveLayout Float}
    (hmade : MadeFrom templates layout) (size : SizeClass) :
    layout.template? size = templates.reverse.find? (·.size = size) := by
  rw [hmade.eq_ofTemplates, template?_ofTemplates]

/--
A layout places the regions of the last template that it was made from for the class of the width, and these
lie where they do if that template is compiled and laid out. A container without area has no regions, and a
class without a template has none either, which is all that is warned of.
-/
theorem place_eq_layOut {templates : List (GridTemplate Float)} {layout : AdaptiveLayout Float}
    (hmade : MadeFrom templates layout) (width height : Float) (names : Option (List String)) :
    let size := layout.sizeFor width
    let placed := layout.place width height names
    let records := placed.records layout.name width
    let warning := Record.noTemplate layout.name size width
    (∀ s, size = s ↔ layout.breakpoints.Spans s width ∨ width.isNaN = true ∧ s = .large) ∧
      (width ≤ 0 ∨ height ≤ 0 → placed.rects = [] ∧ records = []) ∧
      (¬(width ≤ 0 ∨ height ≤ 0) →
        ((∀ t ∈ templates, t.size ≠ size) →
          placed.rects = [] ∧ records = [warning] ∧ warning.level = .warning) ∧
        ∀ t, IsLastFor templates size t →
          (∃ plan, compile t.rows = .ok plan ∧
            placed.rects = layOut plan t.columnSizes t.rowSizes width height names) ∧ records = []) ∧
      (∀ t, layout.templateFor? width = some t → t.size = size) ∧
      ∀ wider, width ≤ wider → SizeClass.all.idxOf size ≤ SizeClass.all.idxOf (layout.sizeFor wider) := by
  intro size placed records warning
  have hfor : layout.templateFor? width = templates.reverse.find? (·.size = size) := hmade.template? size
  refine ⟨fun s => Breakpoints.sizeFor_eq_iff, fun harea => ?_, fun harea => ⟨fun hnone => ?_, fun t hlast => ?_⟩,
    fun t ht => ?_, fun wider hwidths => Breakpoints.sizeFor_mono hwidths⟩
  · have hplaced : placed = ⟨[], none⟩ := if_pos harea
    refine ⟨by rw [hplaced], ?_⟩
    simp only [records, hplaced]
    rfl
  · have hplaced : placed = ⟨[], some size⟩ := by
      simp only [placed, place, if_neg harea, hfor, GridTemplate.find?_reverse_eq_none_iff.mpr hnone]
      rfl
    refine ⟨by rw [hplaced], ?_, rfl⟩
    simp only [records, hplaced]
    rfl
  · have hplaced : placed = ⟨t.place width height names, none⟩ := by
      simp only [placed, place, if_neg harea, hfor, GridTemplate.find?_reverse_eq_some_iff.mpr hlast]
    refine ⟨⟨t.plan, t.compiles, by rw [hplaced]; rfl⟩, ?_⟩
    simp only [records, hplaced]
    rfl
  · rw [hfor, GridTemplate.find?_reverse_eq_some_iff] at ht
    obtain ⟨_, _, _, hsize, _⟩ := ht
    exact hsize

/-- Of two templates for one class the later one is laid out, and another class has none. -/
theorem place_eq_layOut_override :
    let early : GridTemplate Float := ⟨.medium, ["a"], [], [], ⟨1, 1, [⟨"a", 0, 0, 1, 1⟩]⟩, by decide +kernel⟩
    let late : GridTemplate Float := ⟨.medium, ["b"], [], [], ⟨1, 1, [⟨"b", 0, 0, 1, 1⟩]⟩, by decide +kernel⟩
    let layout := ofTemplates (.string "page") .default [early, late]
    MadeFrom [early, late] layout ∧
      (layout.place 700 20).rects = layOut late.plan [] [] 700 20 ∧
        ((layout.place 300 20).records layout.name 300).length = 1 := by
  intro early late layout
  have hmade : MadeFrom [early, late] layout := .sequence _ _ _
  obtain ⟨-, -, hplaced, -, -⟩ := place_eq_layOut hmade 700 20 none
  obtain ⟨-, -, hmissing, -, -⟩ := place_eq_layOut hmade 300 20 none
  have hmedium : layout.sizeFor 700 = .medium := by decide +kernel
  have hcompact : layout.sizeFor 300 = .compact := by decide +kernel
  have hlast : IsLastFor [early, late] (layout.sizeFor 700) late :=
    ⟨[early], [], rfl, hmedium.symm, by simp⟩
  obtain ⟨⟨plan, hplan, hrects⟩, -⟩ := (hplaced (by decide +kernel)).2 late hlast
  cases late.compiles.symm.trans hplan
  have hnone : ∀ t ∈ [early, late], t.size ≠ layout.sizeFor 300 := by
    simp [hcompact, early, late]
  obtain ⟨-, hrecords, -⟩ := (hmissing (by decide +kernel)).1 hnone
  exact ⟨hmade, hrects, congrArg List.length hrecords⟩

end AdaptiveLayout

end RegionGrid
