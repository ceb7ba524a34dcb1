import RegionGrid.Definition
import RegionGrid.Proofs.Checks

/-!
# Entries of a layout definition

What an entry of the layouts of a definition has to be, and the grid template that it gives: the one that is
built from the rows of its template and from its values for the columns and the rows.
-/

namespace RegionGrid

theorem SizeClass.ofName?_eq_some_iff {s : String} {size : SizeClass} :
    SizeClass.ofName? s = some size ↔ s = size.name := by
  constructor
  · intro hsome
    rw [SizeClass.ofName?] at hsome
    have hname := List.find?_some hsome
    exact (beq_iff_eq.mp hname).symm
  · intro hname
    subst hname
    cases size <;> rfl

/-! ### Track sizes -/

/-- The sizes that a value gives for the tracks of an axis: none, or one for each item of a list. -/
inductive GivesTracks : Value → List (TrackSize Float) → Prop
  | absent : GivesTracks .null []
  | listed {items : List Value} {sizes : List (TrackSize Float)} (label? : Option Label)
      (hitems : List.Forall₂ (fun v size => TrackSize.ofValue v = .ok size) items sizes) :
      GivesTracks (.list items label?) sizes

theorem TrackSize.listOfValue_eq_ok_iff {v : Value} {sizes : List (TrackSize Float)} :
    TrackSize.listOfValue v = .ok sizes ↔ GivesTracks v sizes := by
  constructor
  · intro hok
    cases v with
    | null =>
      cases hok
      exact .absent
    | list items label? => exact .listed label? (mapM_eq_ok_iff.mp hok)
    | _ => cases hok
  · intro hgives
    cases hgives with
    | absent => rfl
    | listed _ hitems => exact mapM_eq_ok_iff.mpr hitems

/-! ### Grid templates -/

namespace GridTemplate

theorem ofRows_eq_ok_iff {α : Type} {size : SizeClass} {rows : List String}
    {columnSizes rowSizes : List (TrackSize α)} {t : GridTemplate α} :
    ofRows size rows columnSizes rowSizes = .ok t ↔
      t.size = size ∧ t.rows = rows ∧ t.columnSizes = columnSizes ∧ t.rowSizes = rowSizes := by
  constructor
  · intro hok
    unfold ofRows at hok
    split at hok
    · cases hok
      exact ⟨rfl, rfl, rfl, rfl⟩
    · cases hok
  · rintro ⟨rfl, rfl, rfl, rfl⟩
    unfold ofRows
    split
    next plan hplan =>
      obtain ⟨size, rows, columnSizes, rowSizes, compiled, hcompiled⟩ := t
      cases Except.ok.inj (hplan.symm.trans hcompiled)
      rfl
    next e herror => cases herror.symm.trans t.compiles

/-- What direct construction for a size class gives. -/
theorem ofValues_eq_ok_iff {size : SizeClass} {rows : List String} {columns rowTracks : Value}
    {t : GridTemplate Float} :
    ofValues (.string size.name) rows columns rowTracks = .ok t ↔
      GivesTracks columns t.columnSizes ∧ GivesTracks rowTracks t.rowSizes ∧
        t.size = size ∧ t.rows = rows := by
  have hsize : SizeClass.ofName? size.name = some size := SizeClass.ofName?_eq_some_iff.mpr rfl
  simp only [ofValues, hsize, bind_eq_ok_iff, mapError_eq_ok_iff, TrackSize.listOfValue_eq_ok_iff,
    ofRows_eq_ok_iff]
  constructor
  · rintro ⟨_, hcolumns, _, hrows, hsize, hrowsEq, rfl, rfl⟩
    exact ⟨hcolumns, hrows, hsize, hrowsEq⟩
  · rintro ⟨hcolumns, hrows, hsize, hrowsEq⟩
    exact ⟨_, hcolumns, _, hrows, hsize, hrowsEq, rfl, rfl⟩

theorem exists_ofValues_eq_ok_iff {size : SizeClass} {rows : List String} {columns rowTracks : Value} :
    (∃ t, ofValues (.string size.name) rows columns rowTracks = .ok t) ↔
      (∃ columnSizes, GivesTracks columns columnSizes) ∧ (∃ rowSizes, GivesTracks rowTracks rowSizes) ∧
        ∃ plan, compile rows = .ok plan := by
  constructor
  · intro h
    obtain ⟨t, hok⟩ := h
    obtain ⟨hcolumns, hrows, -, rfl⟩ := ofValues_eq_ok_iff.mp hok
    exact ⟨⟨_, hcolumns⟩, ⟨_, hrows⟩, t.plan, t.compiles⟩
  · intro h
    obtain ⟨⟨columnSizes, hcolumns⟩, ⟨rowSizes, hrows⟩, plan, hcompile⟩ := h
    exact ⟨⟨size, rows, columnSizes, rowSizes, plan, hcompile⟩,
      ofValues_eq_ok_iff.mpr ⟨hcolumns, hrows, rfl, rfl⟩⟩

end GridTemplate

namespace Definition

/-- The rows that a value gives: the lines of a text with something in them, or the strings of a list. -/
inductive GivesRows : Value → List String → Prop
  | text (s : String) : GivesRows (.string s) ((lines s).filter hasInk)
  | listed (rows : List String) (label? : Option Label) :
      GivesRows (.list (rows.map .string) label?) rows

theorem strings?_eq_some_iff {items : List Value} {rows : List String} :
    strings? items = some rows ↔ items = rows.map .string := by
  induction items generalizing rows with
  | nil =>
    rw [strings?, List.mapM_nil, List.nil_eq, List.map_eq_nil_iff]
    exact ⟨fun hsome => (Option.some.inj hsome).symm, fun hnil => congrArg some hnil.symm⟩
  | cons v items ih =>
    rw [strings?, List.mapM_cons, Option.bind_eq_bind, Option.bind_eq_some_iff]
    rw [strings?] at ih
    simp only [Option.bind_eq_bind, Option.bind_eq_some_iff, Option.pure_def, Option.some.injEq, ih]
    constructor
    · intro h
      obtain ⟨s, hs, rest, rfl, rfl⟩ := h
      cases v with
      | string =>
        cases hs
        rfl
      | _ => cases hs
    · intro hcons
      obtain ⟨s, rest, rfl, rfl, rfl⟩ := List.map_eq_cons_iff.mp hcons.symm
      exact ⟨s, rfl, rest, rfl, rfl⟩

theorem rows?_eq_some_iff {v : Value} {rows : List String} : rows? v = some rows ↔ GivesRows v rows := by
  constructor
  · intro hsome
    cases v with
    | string s =>
      cases hsome
      exact .text s
    | list items label? =>
      rw [rows?, strings?_eq_some_iff] at hsome
      exact hsome ▸ .listed rows label?
    | _ => cases hsome
  · intro hgives
    cases hgives with
    | text => rfl
    | listed => exact strings?_eq_some_iff.mpr rfl

theorem tracks_eq_ok_iff {size : SizeClass} {axis : Axis} {v : Value} {sizes : List (TrackSize Float)} :
    tracks size axis v = .ok sizes ↔ GivesTracks v sizes := by
  rw [← TrackSize.listOfValue_eq_ok_iff, tracks.eq_def]
  cases v with
  | null => exact mapError_eq_ok_iff
  | list => exact mapError_eq_ok_iff
  | _ => exact ⟨nofun, nofun⟩

/-- The grid template that the entry of a size class describes, as direct construction gives it. -/
inductive GivesTemplate (size : SizeClass) : Value → GridTemplate Float → Prop
  | built {fields : List (Value × Value)} (label? : Option Label) {template : Value} {rows : List String}
      {t : GridTemplate Float} (htemplate : Value.field? fields "template" = some template)
      (hrows : GivesRows template rows)
      (hbuilt : GridTemplate.ofValues (.string size.name) rows (Value.field fields "columns")
        (Value.field fields "rows") = .ok t) :
      GivesTemplate size (.mapping fields label?) t

theorem gridTemplate_eq_ok_iff {size : SizeClass} {v : Value} {t : GridTemplate Float} :
    gridTemplate size v = .ok t ↔ GivesTemplate size v t := by
  constructor
  · intro hok
    cases v with
    | mapping fields label? =>
      cases htemplate : Value.field? fields "template" with
      | none => simp [gridTemplate, htemplate] at hok
      | some template =>
        cases hrows : rows? template with
        | none => simp [gridTemplate, htemplate, hrows] at hok
        | some rows =>
          simp only [gridTemplate, htemplate, hrows, bind_eq_ok_iff, mapError_eq_ok_iff,
            tracks_eq_ok_iff, GridTemplate.ofRows_eq_ok_iff] at hok
          obtain ⟨_, hcolumns, _, hrowSizes, hsize, hrowsEq, rfl, rfl⟩ := hok
          exact .built label? htemplate (rows?_eq_some_iff.mp hrows)
            (GridTemplate.ofValues_eq_ok_iff.mpr ⟨hcolumns, hrowSizes, hsize, hrowsEq⟩)
    | _ => cases hok
  · intro hgives
    cases hgives with
    | built label? htemplate hrows hbuilt =>
      obtain ⟨hcolumns, hrowSizes, hsize, hrowsEq⟩ := GridTemplate.ofValues_eq_ok_iff.mp hbuilt
      simp only [gridTemplate, htemplate, rows?_eq_some_iff.mpr hrows, bind_eq_ok_iff,
        mapError_eq_ok_iff, tracks_eq_ok_iff, GridTemplate.ofRows_eq_ok_iff]
      exact ⟨_, hcolumns, _, hrowSizes, hsize, hrowsEq, rfl, rfl⟩

/-- The entries of the layouts of a definition, as documented: a size class with its template. -/
inductive IsEntry : Value × Value → Prop
  | intro (size : SizeClass) {fields : List (Value × Value)} (label? : Option Label) {template : Value}
      {rows : List String} (htemplate : Value.field? fields "template" = some template)
      (hrows : GivesRows template rows)
      (hcolumnSizes : ∃ sizes, GivesTracks (Value.field fields "columns") sizes)
      (hrowSizes : ∃ sizes, GivesTracks (Value.field fields "rows") sizes)
      (hcompile : ∃ plan, compile rows = .ok plan) : IsEntry (.string size.name, .mapping fields label?)

theorem entry_eq_ok_iff {name key v : Value} {t : SizeClass × GridTemplate Float} :
    entry name key v = .ok t ↔ key = .string t.1.name ∧ GivesTemplate t.1 v t.2 := by
  obtain ⟨size, t⟩ := t
  constructor
  · intro hok
    cases key with
    | string s =>
      cases hs : SizeClass.ofName? s with
      | none => simp [entry, hs] at hok
      | some other =>
        simp only [entry, hs, bind_eq_ok_iff, gridTemplate_eq_ok_iff] at hok
        obtain ⟨_, hgives, hpair⟩ := hok
        cases hpair
        exact ⟨congrArg Value.string (SizeClass.ofName?_eq_some_iff.mp hs), hgives⟩
    | _ => cases hok
  · intro h
    obtain ⟨rfl, hgives⟩ := h
    simp only [entry, SizeClass.ofName?_eq_some_iff.mpr rfl, bind_eq_ok_iff, gridTemplate_eq_ok_iff]
    exact ⟨t, hgives, rfl⟩

theorem exists_entry_eq_ok_iff {name : Value} {e : Value × Value} :
    (∃ t, entry name e.1 e.2 = .ok t) ↔ IsEntry e := by
  obtain ⟨key, v⟩ := e
  constructor
  · intro h
    obtain ⟨⟨size, t⟩, hok⟩ := h
    obtain ⟨rfl, hgives⟩ := entry_eq_ok_iff.mp hok
    cases hgives with
    | built label? htemplate hrows hbuilt =>
      obtain ⟨hcolumns, hrowSizes, hcompile⟩ := GridTemplate.exists_ofValues_eq_ok_iff.mp ⟨t, hbuilt⟩
      exact .intro size label? htemplate hrows hcolumns hrowSizes hcompile
  · intro hentry
    cases hentry with
    | intro size label? htemplate hrows hcolumns hrowSizes hcompile =>
      obtain ⟨t, hbuilt⟩ :=
        GridTemplate.exists_ofValues_eq_ok_iff.mpr ⟨hcolumns, hrowSizes, hcompile⟩
      exact ⟨(size, t), entry_eq_ok_iff.mpr ⟨rfl, .built label? htemplate hrows hbuilt⟩⟩

end Definition

end RegionGrid
