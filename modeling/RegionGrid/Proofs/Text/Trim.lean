import Mathlib
import RegionGrid.Text.Blank

/-!
# Trimmed texts

A trimmed text has no white space at its ends, and white space that is put there makes no difference to it.
Neither does the case of the letters of ASCII, none of which is white space.
-/

namespace RegionGrid

theorem isBlank_toLower (c : Char) : isBlank c.toLower = isBlank c := by
  by_cases hupper : c.isUpper = true
  · have hrange : 0x41 ≤ c.toNat ∧ c.toNat ≤ 0x5a := by
      simpa [Char.isUpper, UInt32.le_iff_toNat_le] using hupper
    have hlower : c.toLower.toNat = c.toNat + 0x20 := by
      rw [Char.toLower_eq_of_isUpper hupper, Char.toNat_ofNat, if_pos (.inl (by omega))]
    have hletter {d : Char} (hd : 0x41 ≤ d.toNat ∧ d.toNat ≤ 0x7a) : isBlank d = false := by
      simp only [isBlank]
      grind
    rw [hletter (by omega), hletter (by omega)]
  · rw [Char.toLower_eq_of_not_isUpper hupper]

namespace Chars

variable {text before after : List Char}

theorem getLast?_trim (text : List Char) : ∀ c ∈ (trim text).getLast?, isBlank c = false := by
  intro c hc
  rw [trim, trimBy, List.getLast?_reverse] at hc
  have hhead := List.head?_dropWhile_not isBlank (text.dropWhile isBlank).reverse
  rwa [hc] at hhead

section Ends

variable {p : Char → Bool}

theorem trimBy_append_left (hbefore : ∀ c ∈ before, p c = true) : trimBy p (before ++ text) = trimBy p text := by
  rw [trimBy, trimBy, List.dropWhile_append_of_pos hbefore]

theorem trimBy_append_right (hafter : ∀ c ∈ after, p c = true) : trimBy p (text ++ after) = trimBy p text := by
  have hreverse : ∀ c ∈ after.reverse, p c = true := fun c hc => hafter c (List.mem_reverse.mp hc)
  rw [trimBy, trimBy, List.dropWhile_append]
  split
  · next hempty =>
    rw [List.isEmpty_iff] at hempty
    rw [hempty, List.dropWhile_eq_nil_iff.mpr hafter]
  · rw [List.reverse_append, List.dropWhile_append_of_pos hreverse]

/-- What is trimmed off a text stands at its two ends. -/
theorem exists_eq_append_trimBy (p : Char → Bool) (text : List Char) :
    ∃ before after, text = before ++ trimBy p text ++ after ∧
      (∀ c ∈ before, p c = true) ∧ ∀ c ∈ after, p c = true := by
  let kept := (text.dropWhile p).reverse
  have hkept : kept.takeWhile p ++ kept.dropWhile p = kept := List.takeWhile_append_dropWhile
  have hdropped : trimBy p text ++ (kept.takeWhile p).reverse = text.dropWhile p := by
    rw [trimBy, ← List.reverse_append, hkept, List.reverse_reverse]
  refine ⟨text.takeWhile p, (kept.takeWhile p).reverse, ?_, fun c hc => List.mem_takeWhile_imp hc, fun c hc => ?_⟩
  · rw [List.append_assoc, hdropped, List.takeWhile_append_dropWhile]
  · exact List.mem_takeWhile_imp (List.mem_reverse.mp hc)

end Ends

theorem trim_blank_append (hbefore : ∀ c ∈ before, isBlank c = true) : trim (before ++ text) = trim text :=
  trimBy_append_left hbefore

theorem trim_append_blank (hafter : ∀ c ∈ after, isBlank c = true) : trim (text ++ after) = trim text :=
  trimBy_append_right hafter

theorem trim_map_toLower (text : List Char) : trim (text.map Char.toLower) = (trim text).map Char.toLower := by
  have hblank : isBlank ∘ Char.toLower = isBlank := funext isBlank_toLower
  rw [trim, trimBy, List.dropWhile_map, hblank, ← List.map_reverse, List.dropWhile_map, hblank, ← List.map_reverse]
  rfl

end Chars

end RegionGrid
