import RegionGrid.Definition
import RegionGrid.Proofs.Checks
import RegionGrid.Proofs.Number.Order

/-!
# Breakpoints of a layout definition

The keys of the breakpoints are thresholds and their values numbers. Each threshold gets the width that is
given for it or its default, and only then the order of the three is looked at. The list is read from its
start with the widths so far in hand: what a list gives is what its rest gives with the first entry in the
place of a default.
-/

namespace RegionGrid

/-- The numbers among the values: doubles, and whole numbers that a double is near to. -/
inductive IsNumber : Value → Float → Prop
  | whole {n : Int} {x : Float} (hnear : Binary64.ofInt? n = some x) : IsNumber (.int n) x
  | double (x : Float) : IsNumber (.float x) x

theorem Value.toNumber_eq_ok_iff {v : Value} {x : Float} : v.toNumber = .ok x ↔ IsNumber v x := by
  constructor
  · intro hok
    cases v with
    | int n =>
      cases hnear : Binary64.ofInt? n with
      | none => simp [toNumber, hnear] at hok
      | some y =>
        simp only [toNumber, hnear, Option.elim_some, Except.ok.injEq] at hok
        exact .whole (hok ▸ hnear)
    | float =>
      cases hok
      exact .double x
    | _ => cases hok
  · intro hnumber
    cases hnumber with
    | whole hnear => simp only [toNumber, hnear, Option.elim_some]
    | double => rfl

namespace Breakpoints

theorem ofThresholds?_eq_some_iff {compact medium expanded : Float} {b : Breakpoints Float} :
    ofThresholds? compact medium expanded = some b ↔
      b.compact = compact ∧ b.medium = medium ∧ b.expanded = expanded := by
  constructor
  · intro hsome
    unfold ofThresholds? at hsome
    split at hsome
    · cases hsome
      exact ⟨rfl, rfl, rfl⟩
    · cases hsome
  · rintro ⟨rfl, rfl, rfl⟩
    exact dif_pos ⟨b.compact_le_medium, b.medium_le_expanded⟩

/-- What is not a number cannot be compared, so that no breakpoint is that. -/
theorem not_nan (b : Breakpoints Float) :
    b.compact.isNaN = false ∧ b.medium.isNaN = false ∧ b.expanded.isNaN = false :=
  ⟨(Binary64.not_nan_of_le b.compact_le_medium).1, Binary64.not_nan_of_le b.medium_le_expanded⟩

end Breakpoints

namespace Definition

/--
The width that the entries of a mapping give for a threshold, or the default. The keys of a mapping are
distinct; of entries that repeat one, the last counts.
-/
def GivesWidth (entries : List (Value × Value)) (key : String) (default width : Float) : Prop :=
  match Value.field? entries.reverse key with
  | some v => IsNumber v width
  | none => width = default

def thresholdNames : List String := ["compact", "medium", "expanded"]

def OnlyThresholds (entries : List (Value × Value)) : Prop :=
  ∀ e ∈ entries, ∃ s ∈ thresholdNames, e.1 = .string s

/-- The widths that a value gives for the three thresholds. They need not ascend. -/
inductive GivesWidths : Value → Float → Float → Float → Prop
  | absent : GivesWidths .null 600 840 1200
  | listed {entries : List (Value × Value)} (label? : Option Label) {compact medium expanded : Float}
      (hkeys : OnlyThresholds entries)
      (hnumbers : ∀ e ∈ entries, ∃ width, IsNumber e.2 width)
      (hcompact : GivesWidth entries "compact" 600 compact)
      (hmedium : GivesWidth entries "medium" 840 medium)
      (hexpanded : GivesWidth entries "expanded" 1200 expanded) :
      GivesWidths (.mapping entries label?) compact medium expanded

theorem givesWidth_cons {s key : String} {v : Value} {rest : List (Value × Value)}
    {default given width : Float} (hgiven : v.toNumber = .ok given) :
    GivesWidth ((.string s, v) :: rest) key default width ↔
      GivesWidth rest key (if s = key then given else default) width := by
  have hfield : Value.field? ((.string s, v) :: rest).reverse key =
      (Value.field? rest.reverse key).or (if s = key then some v else none) := by
    rw [List.reverse_cons, Value.field?, List.findSome?_append, List.findSome?_singleton]
    rfl
  have hnumber : IsNumber v width ↔ width = given := by
    rw [← Value.toNumber_eq_ok_iff, hgiven, Except.ok.injEq, eq_comm]
  rw [GivesWidth, GivesWidth, hfield]
  cases Value.field? rest.reverse key with
  | some later => rfl
  | none =>
    by_cases hkey : s = key
    · simp only [if_pos hkey, Option.none_or]
      exact hnumber
    · simp only [if_neg hkey, Option.none_or]

theorem isThreshold_iff {key : Value} :
    isThreshold key = true ↔ ∃ s ∈ thresholdNames, key = .string s := by
  cases key with
  | string s => simp [isThreshold, thresholdNames, or_assoc]
  | _ => simp [isThreshold]

theorem readThresholds_eq_ok_iff {entries : List (Value × Value)} {t given : Thresholds}
    (hkeys : OnlyThresholds entries) :
    readThresholds t entries = .ok given ↔ (∀ e ∈ entries, ∃ width, IsNumber e.2 width) ∧
      GivesWidth entries "compact" t.compact given.compact ∧
      GivesWidth entries "medium" t.medium given.medium ∧
      GivesWidth entries "expanded" t.expanded given.expanded := by
  induction entries generalizing t with
  | nil =>
    obtain ⟨compact, medium, expanded⟩ := t
    obtain ⟨_, _, _⟩ := given
    simp [readThresholds, GivesWidth, Value.field?, eq_comm]
  | cons e rest ih =>
    obtain ⟨key, v⟩ := e
    obtain ⟨⟨s, hs, rfl⟩, hrest⟩ := List.forall_mem_cons.mp hkeys
    rw [readThresholds, List.forall_mem_cons]
    cases hv : v.toNumber with
    | error e =>
      have hnumber : ¬∃ width, IsNumber v width := by
        rintro ⟨width, hwidth⟩
        rw [← Value.toNumber_eq_ok_iff, hv] at hwidth
        cases hwidth
      cases e with
      | notNumber => simp [hnumber]
      | tooLarge => simp [hnumber]
    | ok width =>
      have hnumber : ∃ width, IsNumber v width := ⟨width, Value.toNumber_eq_ok_iff.mp hv⟩
      -- The rest is read with this width in the place of the default of one threshold.
      simp only [ih hrest, givesWidth_cons hv, hnumber, true_and]
      simp only [thresholdNames, List.mem_cons, List.not_mem_nil, or_false] at hs
      rcases hs with rfl | rfl | rfl
      · simp [Thresholds.set?]
      · simp [Thresholds.set?]
      · simp [Thresholds.set?]

theorem unknown_eq_nil_iff {entries : List (Value × Value)} :
    (entries.map (·.1)).filter (fun key => !isThreshold key) = [] ↔ OnlyThresholds entries := by
  simp only [List.filter_eq_nil_iff, List.forall_mem_map, Bool.not_eq_true', Bool.not_eq_false,
    isThreshold_iff, OnlyThresholds]

theorem breakpoints_mapping_eq_ok_iff {entries : List (Value × Value)} {label? : Option Label}
    {b : Breakpoints Float} :
    breakpoints (.mapping entries label?) = .ok b ↔
      OnlyThresholds entries ∧
        ∃ t, readThresholds {} entries = .ok t ∧
          b.compact = t.compact ∧ b.medium = t.medium ∧ b.expanded = t.expanded := by
  rw [← unknown_eq_nil_iff, breakpoints]
  by_cases hkeys : (entries.map (·.1)).filter (fun key => !isThreshold key) = []
  · rw [if_neg (not_not.mpr hkeys), bind_eq_ok_iff]
    simp only [hkeys, true_and, ← Breakpoints.ofThresholds?_eq_some_iff]
    refine exists_congr fun t => and_congr_right fun _ => ?_
    cases Breakpoints.ofThresholds? t.compact t.medium t.expanded with
    | some given =>
      change Except.ok given = .ok b ↔ some given = some b
      rw [Except.ok.injEq, Option.some.injEq]
    | none => exact ⟨nofun, nofun⟩
  · rw [if_pos hkeys]
    exact ⟨nofun, fun h => absurd h.1 hkeys⟩

theorem breakpoints_eq_ok_iff {v : Value} {b : Breakpoints Float} :
    breakpoints v = .ok b ↔ GivesWidths v b.compact b.medium b.expanded := by
  cases v with
  | null =>
    constructor
    · intro hok
      cases hok
      exact .absent
    · intro hgives
      obtain ⟨compact, medium, expanded, _, _⟩ := b
      cases hgives
      rfl
  | mapping entries label? =>
    rw [breakpoints_mapping_eq_ok_iff]
    constructor
    · intro h
      obtain ⟨hkeys, t, ht, hcompact, hmedium, hexpanded⟩ := h
      obtain ⟨hnumbers, hwidths⟩ := (readThresholds_eq_ok_iff hkeys).mp ht
      rw [hcompact, hmedium, hexpanded]
      exact .listed label? hkeys hnumbers hwidths.1 hwidths.2.1 hwidths.2.2
    · intro hgives
      cases hgives with
      | listed _ hkeys hnumbers hcompact hmedium hexpanded =>
        exact ⟨hkeys, ⟨b.compact, b.medium, b.expanded⟩,
          (readThresholds_eq_ok_iff hkeys).mpr ⟨hnumbers, hcompact, hmedium, hexpanded⟩, rfl, rfl, rfl⟩
  | _ => exact ⟨nofun, nofun⟩

end Definition

end RegionGrid
