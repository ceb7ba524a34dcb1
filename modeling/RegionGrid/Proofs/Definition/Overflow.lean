import RegionGrid.Proofs.Definition.Accepted
import RegionGrid.Proofs.Number.Nearest

/-!
# Definitions with numbers that are too large

A whole number that no double is near to stops the reading of a definition with an error of its own kind. It
does so only where a number is wanted, as a breakpoint or the size of a track, and only if everything that is
read before it is as documented. Whatever else is wrong with a definition is an error of a malformed value.
-/

namespace RegionGrid

/-- The whole numbers that no double is near to. -/
inductive IsTooLarge : Value → Prop
  | intro {n : Int} (hlarge : 2 ^ 1024 - 2 ^ 970 ≤ n.natAbs) : IsTooLarge (.int n)

theorem Value.toNumber_eq_tooLarge_iff {v : Value} : v.toNumber = .error .tooLarge ↔ IsTooLarge v := by
  cases v with
  | int n =>
    have hlarge : IsTooLarge (.int n) ↔ Binary64.ofInt? n = none :=
      ⟨fun ⟨h⟩ => Binary64.ofInt?_eq_none_iff.mpr h, fun h => ⟨Binary64.ofInt?_eq_none_iff.mp h⟩⟩
    rw [hlarge, toNumber]
    cases Binary64.ofInt? n with
    | none => simp
    | some x => simp
  | _ =>
    constructor
    · intro htooLarge
      cases htooLarge
    · intro hlarge
      cases hlarge

namespace Definition

/-- The sizes of tracks that reach a number that is too large, after sizes that are none of that. -/
inductive TracksOverflow : Value → Prop
  | listed {passed rest : List Value} {v : Value} (label? : Option Label)
      (hpassed : ∀ u ∈ passed, ∃ size, TrackSize.ofValue u = .ok size) (hlarge : IsTooLarge v) :
      TracksOverflow (.list (passed ++ v :: rest) label?)

/-- The breakpoints that reach a number that is too large, after numbers. All their keys are thresholds. -/
inductive WidthsOverflow : Value → Prop
  | listed {passed rest : List (Value × Value)} {key v : Value} (label? : Option Label)
      (hkeys : OnlyThresholds (passed ++ (key, v) :: rest))
      (hpassed : ∀ e ∈ passed, ∃ width, IsNumber e.2 width) (hlarge : IsTooLarge v) :
      WidthsOverflow (.mapping (passed ++ (key, v) :: rest) label?)

/-- The descriptions of templates that reach such a size. The rows of the template are not compiled before. -/
inductive TemplateOverflows : Value → Prop
  | intro {fields : List (Value × Value)} (label? : Option Label) {template : Value} {rows : List String}
      (htemplate : Value.field? fields "template" = some template) (hrows : GivesRows template rows)
      (hsizes : TracksOverflow (Value.field fields "columns") ∨
        ∃ sizes, GivesTracks (Value.field fields "columns") sizes ∧
          TracksOverflow (Value.field fields "rows")) :
      TemplateOverflows (.mapping fields label?)

/-- The entries of layouts that reach such a size. -/
inductive EntryOverflows : Value × Value → Prop
  | intro (size : SizeClass) {v : Value} (htemplate : TemplateOverflows v) :
      EntryOverflows (.string size.name, v)

/-- The definitions that reach a number that is too large before anything malformed. -/
inductive Overflows : Value → Prop
  | breakpoint {fields : List (Value × Value)} (label? : Option Label)
      (hwidths : WidthsOverflow (Value.field fields "breakpoints")) : Overflows (.mapping fields label?)
  | track {fields : List (Value × Value)} (label? : Option Label) {compact medium expanded : Float}
      (hwidths : GivesWidths (Value.field fields "breakpoints") compact medium expanded)
      (hascend : compact ≤ medium ∧ medium ≤ expanded)
      {passed rest : List (Value × Value)} {e : Value × Value} {layoutsLabel? : Option Label}
      (hlayouts : Value.field fields "layouts" = .mapping (passed ++ e :: rest) layoutsLabel?)
      (hpassed : ∀ p ∈ passed, IsEntry p) (hentry : EntryOverflows e) : Overflows (.mapping fields label?)

theorem failsWith_ofValue_iff {v : Value} : FailsWith (· = .tooLarge) (TrackSize.ofValue v) ↔ IsTooLarge v := by
  cases v with
  | int n =>
    rw [← Value.toNumber_eq_tooLarge_iff, TrackSize.ofValue]
    · cases (Value.int n).toNumber with
      | ok x => simp
      | error e => cases e <;> simp
    all_goals
      intros
      contradiction
  | string s =>
    refine iff_of_false ?_ (by rintro ⟨⟩)
    rw [TrackSize.ofValue]
    cases TrackSize.ofText? s <;> simp
  | _ =>
    refine iff_of_false ?_ (by rintro ⟨⟩)
    simp [TrackSize.ofValue, Value.toNumber]

abbrev FailsByOverflow {α : Type} (x : Except DefinitionError α) : Prop := FailsWith (·.isOverflow = true) x

theorem failsByOverflow_tracks_iff {size : SizeClass} {axis : Axis} {v : Value} :
    FailsByOverflow (tracks size axis v) ↔ TracksOverflow v := by
  have htrack (e : TrackError) : (DefinitionError.track e).isOverflow = true ↔ e = .tooLarge := by
    cases e <;> simp [DefinitionError.isOverflow]
  cases v with
  | list items label? =>
    rw [FailsByOverflow, tracks, failsWith_mapError_iff, TrackSize.listOfValue, failsWith_mapM_iff]
    simp only [htrack, failsWith_ofValue_iff]
    constructor
    · rintro ⟨passed, v, rest, rfl, hpassed, hlarge⟩
      exact .listed label? hpassed hlarge
    · rintro ⟨_, hpassed, hlarge⟩
      exact ⟨_, _, _, rfl, hpassed, hlarge⟩
  | null => exact iff_of_false not_failsWith_ok (by rintro ⟨⟩)
  | _ =>
    refine iff_of_false ?_ (by rintro ⟨⟩)
    simp [tracks, DefinitionError.isOverflow]

theorem failsByOverflow_readThresholds_iff {entries : List (Value × Value)} {t : Thresholds} :
    FailsByOverflow (readThresholds t entries) ↔ ∃ passed key v rest, entries = passed ++ (key, v) :: rest ∧
      (∀ e ∈ passed, ∃ width, IsNumber e.2 width) ∧ IsTooLarge v := by
  induction entries generalizing t with
  | nil => simp [readThresholds]
  | cons e entries ih =>
    obtain ⟨key, v⟩ := e
    rw [readThresholds]
    constructor
    · intro hfails
      cases hv : v.toNumber with
      | error e =>
        cases e with
        | notNumber => simp [hv, DefinitionError.isOverflow] at hfails
        | tooLarge => exact ⟨[], key, v, entries, rfl, List.forall_mem_nil _, Value.toNumber_eq_tooLarge_iff.mp hv⟩
      | ok width =>
        simp only [hv] at hfails
        obtain ⟨passed, key', v', rest, rfl, hpassed, hlarge⟩ := ih.mp hfails
        refine ⟨(key, v) :: passed, key', v', rest, rfl, List.forall_mem_cons.mpr ⟨?_, hpassed⟩, hlarge⟩
        exact ⟨width, Value.toNumber_eq_ok_iff.mp hv⟩
    · rintro ⟨passed, key', v', rest, hsplit, hpassed, hlarge⟩
      cases passed with
      | nil =>
        cases hsplit
        rw [← Value.toNumber_eq_tooLarge_iff] at hlarge
        simp [hlarge, DefinitionError.isOverflow]
      | cons e passed =>
        cases hsplit
        obtain ⟨⟨width, hwidth⟩, hpassed⟩ := List.forall_mem_cons.mp hpassed
        simp only [Value.toNumber_eq_ok_iff.mpr hwidth]
        exact ih.mpr ⟨passed, key', v', rest, rfl, hpassed, hlarge⟩

theorem failsByOverflow_breakpoints_iff {v : Value} :
    FailsByOverflow (breakpoints v) ↔ WidthsOverflow v := by
  cases v with
  | mapping entries label? =>
    have hreached : FailsByOverflow (breakpoints (.mapping entries label?)) ↔
        OnlyThresholds entries ∧ FailsByOverflow (readThresholds {} entries) := by
      rw [← unknown_eq_nil_iff, breakpoints]
      by_cases hkeys : (entries.map (·.1)).filter (fun key => !isThreshold key) = []
      · rw [if_neg (not_not.mpr hkeys), FailsByOverflow, failsWith_bind_iff]
        refine ⟨fun hfails => ⟨hkeys, hfails.resolve_right ?_⟩, fun hfails => .inl hfails.2⟩
        rintro ⟨t, -, hordered⟩
        cases hb : Breakpoints.ofThresholds? t.compact t.medium t.expanded with
        | some b => simp [hb] at hordered
        | none => simp [hb, DefinitionError.isOverflow] at hordered
      · rw [if_pos hkeys]
        refine iff_of_false ?_ fun h => hkeys h.1
        rintro ⟨_, hthrow, hoverflow⟩
        cases hthrow
        cases hoverflow
    rw [hreached, failsByOverflow_readThresholds_iff]
    constructor
    · rintro ⟨hkeys, passed, key, v, rest, rfl, hpassed, hlarge⟩
      exact .listed label? hkeys hpassed hlarge
    · rintro ⟨_, hkeys, hpassed, hlarge⟩
      exact ⟨hkeys, _, _, _, _, rfl, hpassed, hlarge⟩
  | null => exact iff_of_false not_failsWith_ok (by rintro ⟨⟩)
  | _ =>
    refine iff_of_false ?_ (by rintro ⟨⟩)
    simp [breakpoints, DefinitionError.isOverflow]

theorem failsByOverflow_gridTemplate_iff {size : SizeClass} {v : Value} :
    FailsByOverflow (gridTemplate size v) ↔ TemplateOverflows v := by
  have hinvalid (e : TemplateError) : (DefinitionError.template e).isOverflow = false := rfl
  have hsizes {fields : List (Value × Value)} {rows : List String} :
      FailsByOverflow (do
        let columnSizes ← tracks size .columns (Value.field fields "columns")
        let rowSizes ← tracks size .rows (Value.field fields "rows")
        (GridTemplate.ofRows size rows columnSizes rowSizes).mapError .template) ↔
      TracksOverflow (Value.field fields "columns") ∨
        ∃ sizes, GivesTracks (Value.field fields "columns") sizes ∧ TracksOverflow (Value.field fields "rows") := by
    simp only [FailsByOverflow, failsWith_bind_iff, failsByOverflow_tracks_iff, tracks_eq_ok_iff,
      failsWith_mapError_iff, hinvalid]
    simp [FailsWith]
  cases v with
  | mapping fields label? =>
    constructor
    · intro hfails
      cases htemplate : Value.field? fields "template" with
      | none => simp [gridTemplate, htemplate, DefinitionError.isOverflow] at hfails
      | some template =>
        cases hrows : rows? template with
        | none => simp [gridTemplate, htemplate, hrows, DefinitionError.isOverflow] at hfails
        | some rows =>
          simp only [gridTemplate, htemplate, hrows] at hfails
          exact .intro label? htemplate (rows?_eq_some_iff.mp hrows) (hsizes.mp hfails)
    · rintro ⟨_, htemplate, hrows, hoverflow⟩
      simp only [gridTemplate, htemplate, rows?_eq_some_iff.mpr hrows]
      exact hsizes.mpr hoverflow
  | _ =>
    refine iff_of_false ?_ (by rintro ⟨⟩)
    simp [gridTemplate, DefinitionError.isOverflow]

theorem entryOverflows_iff {key v : Value} :
    EntryOverflows (key, v) ↔ (∃ size : SizeClass, key = .string size.name) ∧ TemplateOverflows v := by
  constructor
  · rintro ⟨size, htemplate⟩
    exact ⟨⟨size, rfl⟩, htemplate⟩
  · rintro ⟨⟨size, rfl⟩, htemplate⟩
    exact .intro size htemplate

theorem failsByOverflow_entry_iff {name : Value} {e : Value × Value} :
    FailsByOverflow (entry name e.1 e.2) ↔ EntryOverflows e := by
  obtain ⟨key, v⟩ := e
  rw [entryOverflows_iff]
  cases key with
  | string s =>
    cases hs : SizeClass.ofName? s with
    | none =>
      refine iff_of_false (by simp [entry, hs, DefinitionError.isOverflow]) ?_
      rintro ⟨⟨size, hname⟩, -⟩
      rw [SizeClass.ofName?_eq_some_iff.mpr (Value.string.inj hname)] at hs
      cases hs
    | some size =>
      have hname : ∃ size : SizeClass, Value.string s = .string size.name :=
        ⟨size, congrArg Value.string (SizeClass.ofName?_eq_some_iff.mp hs)⟩
      have hentry : FailsByOverflow (entry name (.string s) v) ↔ FailsByOverflow (gridTemplate size v) := by
        simp only [entry, hs, FailsByOverflow, failsWith_bind_iff, not_failsWith_pure, and_false, exists_false,
          or_false]
      rw [hentry, failsByOverflow_gridTemplate_iff, and_iff_right hname]
  | _ =>
    refine iff_of_false ?_ (by rintro ⟨⟨_, ⟨⟩⟩, -⟩)
    simp [entry, DefinitionError.isOverflow]

theorem failsByOverflow_outline_iff {fields : List (Value × Value)} {label? : Option Label} {defaultName : Value} :
    FailsByOverflow (outline (.mapping fields label?) defaultName) ↔
      WidthsOverflow (Value.field fields "breakpoints") := by
  rw [← failsByOverflow_breakpoints_iff, outline, FailsByOverflow, failsWith_bind_iff]
  refine or_iff_left ?_
  rintro ⟨b, -, hlayouts⟩
  by_cases hpresent : (Value.field fields "layouts").isPresent = true
  · simp only [hpresent, Bool.not_true, Bool.false_eq_true, if_false] at hlayouts
    cases hgiven : Value.field fields "layouts" with
    | mapping entries layoutsLabel? => simp [hgiven] at hlayouts
    | _ => simp [hgiven, DefinitionError.isOverflow] at hlayouts
  · simp [hpresent, failsWith_bind_iff, DefinitionError.isOverflow] at hlayouts

theorem failsByOverflow_layout_iff {definition defaultName : Value} :
    FailsByOverflow (layout definition defaultName) ↔ Overflows definition := by
  cases definition with
  | mapping fields label? =>
    simp only [layout, FailsByOverflow, failsWith_bind_iff, failsByOverflow_outline_iff, outline_mapping_eq_ok_iff,
      breakpoints_eq_ok_iff, failsWith_mapM_iff, failsByOverflow_entry_iff, not_failsWith_pure, and_false,
      exists_false, or_false, exists_entry_eq_ok_iff]
    constructor
    · rintro (hwidths | ⟨o, ⟨-, hwidths, ⟨_, hlayouts⟩, -⟩, passed, e, rest, hsplit, hpassed, hentry⟩)
      · exact .breakpoint label? hwidths
      · rw [hsplit] at hlayouts
        exact .track label? hwidths ⟨o.breakpoints.compact_le_medium, o.breakpoints.medium_le_expanded⟩ hlayouts
          hpassed hentry
    · intro hoverflow
      cases hoverflow with
      | breakpoint _ hwidths => exact .inl hwidths
      | @track _ _ compact medium expanded hwidths hascend passed rest e _ hlayouts hpassed hentry =>
        let o : Outline := ⟨(Value.field? fields "name").getD defaultName,
          ⟨compact, medium, expanded, hascend.1, hascend.2⟩, passed ++ e :: rest⟩
        have hsome : o.entries ≠ [] := by simp [o]
        exact .inr ⟨o, ⟨rfl, hwidths, ⟨_, hlayouts⟩, hsome⟩, passed, e, rest, rfl, hpassed, hentry⟩
  | _ =>
    refine iff_of_false ?_ (by rintro ⟨⟩)
    simp [layout, outline, FailsByOverflow, failsWith_bind_iff, DefinitionError.isOverflow]

theorem layout_overflow_column :
    ∃ e, layout (.mapping [(.string "layouts", .mapping [(.string "compact", .mapping
      [(.string "template", .list [.string "a"]), (.string "columns", .list [.int (10 ^ 400)])])])])
        (.string "layout") = .error e ∧ e.isOverflow = true := by
  let fields : List (Value × Value) :=
    [(.string "template", .list [.string "a"]), (.string "columns", .list [.int (10 ^ 400)])]
  have hlarge : IsTooLarge (.int (10 ^ 400)) := ⟨by decide +kernel⟩
  have hcolumns : TracksOverflow (.list [.int (10 ^ 400)]) := @TracksOverflow.listed [] [] _ none (List.forall_mem_nil _) hlarge
  have htemplate : TemplateOverflows (.mapping fields) := .intro none rfl (.listed ["a"] none) (.inl hcolumns)
  have hascend := And.intro Breakpoints.default.compact_le_medium Breakpoints.default.medium_le_expanded
  exact failsByOverflow_layout_iff.mpr
    (@Overflows.track _ none _ _ _ .absent hascend [] [] _ _ rfl (List.forall_mem_nil _)
      (.intro .compact htemplate))

end Definition

end RegionGrid
