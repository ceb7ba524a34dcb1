import RegionGrid.Proofs.Definition.Breakpoints
import RegionGrid.Proofs.Definition.Entry

/-!
# Definitions that are accepted

The definitions that give a layout are those of the documented form, and the layout is the one whose parts are
built from the values of the definition.
-/

namespace RegionGrid

namespace Definition

/-- The definitions of the documented form. -/
inductive IsDefinition : Value → Prop
  | intro {fields : List (Value × Value)} (label? : Option Label) {compact medium expanded : Float}
      (hwidths : GivesWidths (Value.field fields "breakpoints") compact medium expanded)
      (hascend : compact ≤ medium ∧ medium ≤ expanded)
      {entries : List (Value × Value)} {layoutsLabel? : Option Label}
      (hlayouts : Value.field fields "layouts" = .mapping entries layoutsLabel?) (hsome : entries ≠ [])
      (hentries : ∀ e ∈ entries, IsEntry e) : IsDefinition (.mapping fields label?)

/-- The layout that a definition describes, each of its templates as direct construction gives it. -/
inductive GivesLayout : Value → Value → AdaptiveLayout Float → Prop
  | built {fields : List (Value × Value)} (label? : Option Label) (defaultName : Value)
      {l : AdaptiveLayout Float} (hname : l.name = (Value.field? fields "name").getD defaultName)
      (hwidths : GivesWidths (Value.field fields "breakpoints") l.breakpoints.compact
        l.breakpoints.medium l.breakpoints.expanded)
      {entries : List (Value × Value)} {layoutsLabel? : Option Label}
      (hlayouts : Value.field fields "layouts" = .mapping entries layoutsLabel?) (hsome : entries ≠ [])
      (htemplates : List.Forall₂
        (fun e t => e.1 = .string t.1.name ∧ GivesTemplate t.1 e.2 t.2) entries l.templates) :
      GivesLayout (.mapping fields label?) defaultName l

theorem isPresent_mapping_iff {entries : List (Value × Value)} {label? : Option Label} :
    (Value.mapping entries label?).isPresent = true ↔ entries ≠ [] := by
  cases entries with
  | nil => simp [Value.isPresent]
  | cons => simp [Value.isPresent]

theorem outline_mapping_eq_ok_iff {fields : List (Value × Value)} {label? : Option Label}
    {defaultName : Value} {o : Outline} :
    outline (.mapping fields label?) defaultName = .ok o ↔
      o.name = (Value.field? fields "name").getD defaultName ∧
        breakpoints (Value.field fields "breakpoints") = .ok o.breakpoints ∧
          (∃ layoutsLabel?, Value.field fields "layouts" = .mapping o.entries layoutsLabel?) ∧
            o.entries ≠ [] := by
  by_cases hpresent : (Value.field fields "layouts").isPresent = true
  · simp only [outline, bind_eq_ok_iff, hpresent, Bool.not_true, Bool.false_eq_true, if_false]
    cases hlayouts : Value.field fields "layouts" with
    | mapping entries layoutsLabel? =>
      constructor
      · intro h
        obtain ⟨given, hgiven, hok⟩ := h
        cases hok
        rw [hlayouts, isPresent_mapping_iff] at hpresent
        exact ⟨rfl, hgiven, ⟨layoutsLabel?, rfl⟩, hpresent⟩
      · intro h
        obtain ⟨hname, hgiven, ⟨_, hentries⟩, -⟩ := h
        cases hentries
        refine ⟨o.breakpoints, hgiven, ?_⟩
        rw [← hname]
        rfl
    | _ =>
      constructor
      · intro h
        obtain ⟨_, _, hok⟩ := h
        cases hok
      · intro h
        obtain ⟨_, _, ⟨_, hmapping⟩, -⟩ := h
        cases hmapping
  · simp only [outline, bind_eq_ok_iff, hpresent, Bool.not_false, if_true]
    constructor
    · intro h
      obtain ⟨_, _, _, hthrow, _⟩ := h
      cases hthrow
    · intro h
      obtain ⟨_, _, ⟨_, hlayouts⟩, hsome⟩ := h
      rw [hlayouts, isPresent_mapping_iff] at hpresent
      exact absurd hsome hpresent

theorem layout_eq_ok_iff {definition defaultName : Value} {l : AdaptiveLayout Float} :
    layout definition defaultName = .ok l ↔ GivesLayout definition defaultName l := by
  cases definition with
  | mapping fields label? =>
    simp only [layout, bind_eq_ok_iff, outline_mapping_eq_ok_iff, mapM_eq_ok_iff, entry_eq_ok_iff,
      breakpoints_eq_ok_iff]
    constructor
    · intro h
      obtain ⟨o, ⟨hname, hwidths, ⟨_, hlayouts⟩, hsome⟩, templates, htemplates, hok⟩ := h
      cases hok
      exact .built label? defaultName hname hwidths hlayouts hsome htemplates
    · intro hgives
      cases hgives with
      | built _ _ hname hwidths hlayouts hsome htemplates =>
        exact ⟨⟨l.name, l.breakpoints, _⟩, ⟨hname, hwidths, ⟨_, hlayouts⟩, hsome⟩, l.templates,
          htemplates, rfl⟩
  | _ => exact ⟨nofun, nofun⟩

theorem exists_layout_eq_ok_iff {definition defaultName : Value} :
    (∃ l, layout definition defaultName = .ok l) ↔ IsDefinition definition := by
  cases definition with
  | mapping fields label? =>
    simp only [layout, bind_eq_ok_iff, outline_mapping_eq_ok_iff, breakpoints_eq_ok_iff]
    constructor
    · intro h
      obtain ⟨_, o, ⟨-, hwidths, ⟨_, hlayouts⟩, hsome⟩, templates, htemplates, -⟩ := h
      refine .intro label? hwidths ⟨o.breakpoints.compact_le_medium, o.breakpoints.medium_le_expanded⟩
        hlayouts hsome fun e he => ?_
      exact exists_entry_eq_ok_iff.mp (exists_mapM_eq_ok_iff.mp ⟨templates, htemplates⟩ e he)
    · intro hdefinition
      cases hdefinition with
      | @intro _ _ compact medium expanded hwidths hascend entries _ hlayouts hsome hentries =>
        let o : Outline := ⟨(Value.field? fields "name").getD defaultName,
          ⟨compact, medium, expanded, hascend.1, hascend.2⟩, entries⟩
        have hentry : ∀ e ∈ entries, ∃ t, entry o.name e.1 e.2 = .ok t := fun e he =>
          exists_entry_eq_ok_iff.mpr (hentries e he)
        obtain ⟨templates, htemplates⟩ := exists_mapM_eq_ok_iff.mpr hentry
        exact ⟨_, o, ⟨rfl, hwidths, ⟨_, hlayouts⟩, hsome⟩, templates, htemplates, rfl⟩
  | _ => exact ⟨nofun, nofun⟩

/--
A definition gives a layout exactly if it has the documented form, and then the one that it describes.
None of the breakpoints is NaN.
-/
theorem layout_accepts_definitions (definition defaultName : Value) :
    ((∃ l, layout definition defaultName = .ok l) ↔ IsDefinition definition) ∧
      ∀ l, layout definition defaultName = .ok l ↔ GivesLayout definition defaultName l ∧
        l.breakpoints.compact.isNaN = false ∧ l.breakpoints.medium.isNaN = false ∧
          l.breakpoints.expanded.isNaN = false := by
  refine ⟨exists_layout_eq_ok_iff, fun l => ?_⟩
  rw [layout_eq_ok_iff]
  exact (and_iff_left l.breakpoints.not_nan).symm

/-- One breakpoint of three, a template as a text and sizes for one of its two columns. -/
theorem layout_accepts_definitions_partial :
    let definition : Value := .mapping [
      (.string "breakpoints", .mapping [(.string "medium", .int 700)]),
      (.string "layouts", .mapping [(.string "large", .mapping [
        (.string "columns", .list [.int 240]),
        (.string "template", .string "head head\n\nnav main\n")])])]
    IsDefinition definition ∧ ∃ l, layout definition (.string "page") = .ok l := by
  intro definition
  have hmedium : IsNumber (.int 700) (Binary64.nearest false 700 1) := .whole rfl
  have hwidths : GivesWidths (.mapping [(.string "medium", .int 700)]) 600
      (Binary64.nearest false 700 1) 1200 := by
    refine .listed none (by simp [OnlyThresholds, thresholdNames]) ?_ rfl hmedium rfl
    intro e he
    rw [List.mem_singleton.mp he]
    exact ⟨_, hmedium⟩
  have hdefinition : IsDefinition definition := by
    refine .intro none hwidths (by decide +kernel) rfl (List.cons_ne_nil _ _) fun e he => ?_
    rw [List.mem_singleton.mp he]
    exact .intro .large none rfl (.text _) ⟨_, .listed none (.cons rfl .nil)⟩ ⟨[], .absent⟩ ⟨_, rfl⟩
  exact ⟨hdefinition, (layout_accepts_definitions definition (.string "page")).1.mpr hdefinition⟩

end Definition

end RegionGrid
