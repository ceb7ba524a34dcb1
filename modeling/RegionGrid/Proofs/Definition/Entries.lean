import RegionGrid.Proofs.Definition.Accepted

/-!
# Entries one at a time

Once a definition has been read up to its entries, each of these is read on its own: as it would be if the
definition had no other. So the layout has the templates that the entries give one by one, and the error is that
of the first entry that fails by itself.
-/

namespace RegionGrid

namespace Value

variable {fields : List (Value × Value)} {key : String} {v : Value}

/-- The entries with another value in the place of the one for a string. -/
def withField (fields : List (Value × Value)) (key : String) (v : Value) : List (Value × Value) :=
  fields.map fun
    | (.string k, old) => (.string k, if k = key then v else old)
    | field => field

theorem field?_withField (fields : List (Value × Value)) (key : String) (v : Value) (k : String) :
    field? (withField fields key v) k = if k = key then (field? fields k).map fun _ => v else field? fields k := by
  induction fields with
  | nil => simp [withField, field?]
  | cons field fields ih =>
    obtain ⟨fieldKey, old⟩ := field
    unfold withField field? at ih ⊢
    cases fieldKey with
    | string first =>
      simp only [List.map_cons, List.findSome?_cons, ih]
      by_cases hfirst : first = k
      · subst hfirst
        split_ifs <;> rfl
      · simp only [if_neg hfirst]
    | _ => simpa only [List.map_cons, List.findSome?_cons] using ih

theorem field_withField_self (hfield : field? fields key ≠ none) : field (withField fields key v) key = v := by
  obtain ⟨old, hold⟩ := Option.ne_none_iff_exists'.mp hfield
  rw [field, field?_withField, if_pos rfl, hold]
  rfl

theorem field_withField_of_ne {k : String} (hk : k ≠ key) : field (withField fields key v) k = field fields k := by
  rw [field, field?_withField, if_neg hk, field]

end Value

namespace Definition

variable {fields entries : List (Value × Value)} {label? layoutsLabel? : Option Label} {defaultName : Value}
  {given : Breakpoints Float}

theorem layout_mapping_eq (hbreakpoints : breakpoints (Value.field fields "breakpoints") = .ok given)
    (hlayouts : Value.field fields "layouts" = .mapping entries layoutsLabel?) (hsome : entries ≠ []) :
    layout (.mapping fields label?) defaultName =
      (entries.mapM fun e => entry ((Value.field? fields "name").getD defaultName) e.1 e.2) >>= fun templates =>
        .ok ⟨(Value.field? fields "name").getD defaultName, given, templates⟩ := by
  have houtline : outline (.mapping fields label?) defaultName =
      .ok ⟨(Value.field? fields "name").getD defaultName, given, entries⟩ :=
    outline_mapping_eq_ok_iff.mpr ⟨rfl, hbreakpoints, ⟨_, hlayouts⟩, hsome⟩
  rw [layout, houtline]
  rfl

/-- The definition with only one entry in its layouts. -/
def onlyEntry (fields : List (Value × Value)) (label? : Option Label) (e : Value × Value) : Value :=
  .mapping (Value.withField fields "layouts" (.mapping [e])) label?

theorem layout_onlyEntry_eq (hbreakpoints : breakpoints (Value.field fields "breakpoints") = .ok given)
    (hlayouts : Value.field fields "layouts" = .mapping entries layoutsLabel?) (e : Value × Value) :
    layout (onlyEntry fields label? e) defaultName =
      entry ((Value.field? fields "name").getD defaultName) e.1 e.2 >>= fun t =>
        .ok ⟨(Value.field? fields "name").getD defaultName, given, [t]⟩ := by
  have hpresent : Value.field? fields "layouts" ≠ none := by
    intro hnone
    rw [Value.field, hnone] at hlayouts
    cases hlayouts
  have hname : Value.field? (Value.withField fields "layouts" (.mapping [e])) "name" = Value.field? fields "name" := by
    rw [Value.field?_withField, if_neg (by decide)]
  have hbreakpoints' : breakpoints (Value.field (Value.withField fields "layouts" (.mapping [e])) "breakpoints") =
      .ok given := by
    rw [Value.field_withField_of_ne (by decide), hbreakpoints]
  rw [onlyEntry, layout_mapping_eq hbreakpoints' (Value.field_withField_self hpresent) (List.cons_ne_nil _ _), hname]
  simp only [List.mapM_cons, List.mapM_nil, bind_assoc, pure_bind]

theorem exists_layout_onlyEntry_iff (hbreakpoints : breakpoints (Value.field fields "breakpoints") = .ok given)
    (hlayouts : Value.field fields "layouts" = .mapping entries layoutsLabel?) (e : Value × Value) :
    (∃ l, layout (onlyEntry fields label? e) defaultName = .ok l) ↔
      ∃ t, entry ((Value.field? fields "name").getD defaultName) e.1 e.2 = .ok t := by
  simp only [layout_onlyEntry_eq hbreakpoints hlayouts, bind_eq_ok_iff]
  constructor
  · intro h
    obtain ⟨_, t, ht, -⟩ := h
    exact ⟨t, ht⟩
  · intro h
    obtain ⟨t, ht⟩ := h
    exact ⟨_, t, ht, rfl⟩

/--
The entries are read independently: a definition is accepted exactly if it is with each of its entries alone, its
templates are those of the entries alone in their order, and it fails with the error of the first entry that fails
alone.
-/
theorem layout_by_entries (hbreakpoints : ∃ given, breakpoints (Value.field fields "breakpoints") = .ok given)
    (hlayouts : Value.field fields "layouts" = .mapping entries layoutsLabel?) (hsome : entries ≠ []) :
    ((∃ l, layout (.mapping fields label?) defaultName = .ok l) ↔
        ∀ e ∈ entries, ∃ l, layout (onlyEntry fields label? e) defaultName = .ok l) ∧
      (∀ l, layout (.mapping fields label?) defaultName = .ok l → List.Forall₂
        (fun e t => layout (onlyEntry fields label? e) defaultName = .ok ⟨l.name, l.breakpoints, [t]⟩)
        entries l.templates) ∧
      ∀ error, layout (.mapping fields label?) defaultName = .error error ↔
        ∃ passed failed rest, entries = passed ++ failed :: rest ∧
          (∀ e ∈ passed, ∃ l, layout (onlyEntry fields label? e) defaultName = .ok l) ∧
            layout (onlyEntry fields label? failed) defaultName = .error error := by
  obtain ⟨given, hbreakpoints⟩ := hbreakpoints
  simp only [exists_layout_onlyEntry_iff hbreakpoints hlayouts]
  simp only [layout_mapping_eq hbreakpoints hlayouts hsome, layout_onlyEntry_eq hbreakpoints hlayouts]
  refine ⟨?_, fun l hok => ?_, fun error => ?_⟩
  · rw [← exists_mapM_eq_ok_iff]
    simp only [bind_eq_ok_iff]
    constructor
    · intro h
      obtain ⟨_, templates, htemplates, -⟩ := h
      exact ⟨templates, htemplates⟩
    · intro h
      obtain ⟨templates, htemplates⟩ := h
      exact ⟨_, templates, htemplates, rfl⟩
  · obtain ⟨templates, htemplates, hl⟩ := bind_eq_ok_iff.mp hok
    cases hl
    refine (mapM_eq_ok_iff.mp htemplates).imp fun e t ht => ?_
    rw [ht]
    rfl
  · simp only [bind_eq_error_iff, reduceCtorEq, and_false, exists_false, or_false, mapM_eq_error_iff]

/-- The second of three entries is no size class, and the third one has no template. -/
theorem layout_by_entries_two_faults :
    let compact : Value × Value := (.string "compact", .mapping [(.string "template", .string "nav main")])
    let huge : Value × Value := (.string "huge", .mapping [])
    let large : Value × Value := (.string "large", .null)
    let fields := [(Value.string "layouts", Value.mapping [compact, huge, large])]
    (∃ given, breakpoints (Value.field fields "breakpoints") = .ok given) ∧
      Value.field fields "layouts" = .mapping [compact, huge, large] ∧ [compact, huge, large] ≠ [] ∧
      layout (.mapping fields) (.string "page") = .error (.unknownSizeClass (.string "huge") (.string "page")) := by
  intro compact huge large fields
  have hbreakpoints : ∃ given, breakpoints (Value.field fields "breakpoints") = .ok given := ⟨_, rfl⟩
  have hlayouts : Value.field fields "layouts" = .mapping [compact, huge, large] := rfl
  refine ⟨hbreakpoints, hlayouts, List.cons_ne_nil _ _, ?_⟩
  rw [(layout_by_entries hbreakpoints hlayouts (List.cons_ne_nil _ _)).2.2]
  refine ⟨[compact], huge, [large], rfl, ?_, rfl⟩
  intro e he
  obtain ⟨given, hgiven⟩ := hbreakpoints
  rw [List.mem_singleton.mp he, exists_layout_onlyEntry_iff hgiven hlayouts, exists_entry_eq_ok_iff]
  exact .intro .compact none rfl (.text _) ⟨[], .absent⟩ ⟨[], .absent⟩ ⟨_, rfl⟩

end Definition

end RegionGrid
