import RegionGrid.Assoc
import Mathlib.Data.List.Induction
import Mathlib.Data.List.Nodup

/-!
# Looking up keys

In a list of pairs without a repeated key, looking up a key finds exactly the value that is listed for it.
What was given for a key, or taken away, is found so afterwards, and the other keys are not touched.
-/

namespace RegionGrid

variable {κ β : Type} [BEq κ] [LawfulBEq κ]

theorem lookup_eq_some_iff_mem {entries : List (κ × β)} {key : κ} {value : β} (hkeys : (entries.map Prod.fst).Nodup) :
    entries.lookup key = some value ↔ (key, value) ∈ entries := by
  induction entries with
  | nil => simp
  | cons entry entries ih =>
    obtain ⟨first, other⟩ := entry
    obtain ⟨hfirst, hkeys⟩ := List.nodup_cons.mp hkeys
    rw [List.lookup_cons, List.mem_cons, Prod.mk.injEq]
    by_cases hkey : key = first
    · subst hkey
      have hnone : (key, value) ∉ entries := fun hmem =>
        hfirst (List.mem_map.mpr ⟨_, hmem, rfl⟩)
      simp [hnone, eq_comm]
    · rw [beq_eq_false_iff_ne.mpr hkey, ih hkeys]
      simp [hkey]

omit [LawfulBEq κ] in
/-- Where every value has an image, the image of a value is found for the same key. -/
theorem lookup_of_mapM {γ : Type} {image? : β → Option γ} {entries : List (κ × β)} {images : List (κ × γ)}
    (himages : (entries.mapM fun entry => (image? entry.2).map (entry.1, ·)) = some images) (key : κ) :
    images.lookup key = (entries.lookup key).bind image? := by
  induction entries generalizing images with
  | nil =>
    cases himages
    rfl
  | cons entry entries ih =>
    rw [List.mapM_cons] at himages
    obtain ⟨image, himage, himages⟩ := Option.bind_eq_some_iff.mp himages
    obtain ⟨rest, hrest, himages⟩ := Option.bind_eq_some_iff.mp himages
    obtain ⟨value, hvalue, rfl⟩ := Option.map_eq_some_iff.mp himage
    cases himages
    rw [List.lookup_cons, List.lookup_cons]
    cases key == entry.1 with
    | true => exact hvalue.symm
    | false => exact ih hrest

theorem lookup_insert (entries : List (κ × β)) (key other : κ) (value : β) :
    (Assoc.insert entries key value).lookup other =
      if other == key then some value else entries.lookup other := by
  induction entries with
  | nil =>
    rw [Assoc.insert, List.lookup_cons, List.lookup_nil]
    cases other == key <;> rfl
  | cons entry entries ih =>
    obtain ⟨first, old⟩ := entry
    rw [Assoc.insert]
    by_cases hfirst : first = key
    · subst hfirst
      rw [if_pos BEq.rfl, List.lookup_cons, List.lookup_cons]
      cases other == first <;> rfl
    · rw [if_neg (mt eq_of_beq hfirst), List.lookup_cons, List.lookup_cons, ih]
      by_cases hother : other = first
      · subst hother
        rw [BEq.rfl, beq_eq_false_iff_ne.mpr hfirst]
        rfl
      · rw [beq_eq_false_iff_ne.mpr hother]

theorem insert_of_notMem {entries : List (κ × β)} {key : κ} (value : β)
    (hkey : key ∉ entries.map Prod.fst) : Assoc.insert entries key value = entries ++ [(key, value)] := by
  induction entries with
  | nil => rfl
  | cons entry entries ih =>
    obtain ⟨first, old⟩ := entry
    rw [List.map_cons, List.mem_cons, not_or] at hkey
    have hfirst : ¬ (first == key) = true := fun heq => hkey.1 (eq_of_beq heq).symm
    rw [Assoc.insert, if_neg hfirst, ih hkey.2, List.cons_append]

omit [LawfulBEq κ] in
theorem ofList_concat (pairs : List (κ × β)) (pair : κ × β) :
    Assoc.ofList (pairs ++ [pair]) = Assoc.insert (Assoc.ofList pairs) pair.1 pair.2 :=
  List.foldl_append

/-- Of several pairs for one key the last one counts. -/
theorem lookup_ofList (pairs : List (κ × β)) (key : κ) :
    (Assoc.ofList pairs).lookup key = pairs.reverse.lookup key := by
  induction pairs using List.reverseRecOn with
  | nil => rfl
  | append_singleton pairs pair ih =>
    rw [ofList_concat, lookup_insert, ih, List.reverse_concat, List.lookup_cons]
    cases key == pair.1 <;> rfl

theorem ofList_eq_self {pairs : List (κ × β)} (hkeys : (pairs.map Prod.fst).Nodup) :
    Assoc.ofList pairs = pairs := by
  induction pairs using List.reverseRecOn with
  | nil => rfl
  | append_singleton pairs pair ih =>
    rw [List.map_append, List.map_singleton, List.nodup_append] at hkeys
    obtain ⟨hkeys, -, hpair⟩ := hkeys
    have hnew : pair.1 ∉ pairs.map Prod.fst := fun hmem =>
      hpair _ hmem _ (List.mem_singleton.mpr rfl) rfl
    rw [ofList_concat, ih hkeys, insert_of_notMem _ hnew]

theorem lookup_filter_ne (entries : List (κ × β)) (key other : κ) :
    (entries.filter (·.1 != key)).lookup other =
      if other == key then none else entries.lookup other := by
  induction entries with
  | nil => simp
  | cons entry entries ih =>
    obtain ⟨first, old⟩ := entry
    by_cases hfirst : first = key
    · subst hfirst
      rw [List.filter_cons_of_neg (by simp), ih, List.lookup_cons]
      cases other == first <;> rfl
    · rw [List.filter_cons_of_pos (by simpa using hfirst), List.lookup_cons, List.lookup_cons, ih]
      by_cases hother : other = first
      · subst hother
        rw [BEq.rfl, beq_eq_false_iff_ne.mpr hfirst]
        rfl
      · rw [beq_eq_false_iff_ne.mpr hother]

end RegionGrid
