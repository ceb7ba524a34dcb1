import RegionGrid.Proofs.Number.SixDigits
import RegionGrid.Proofs.Track.Grammar

/-!
# Texts of track sizes that are read again

Which track sizes are read back from their texts, and what they are then: not always the same ones, but of the
same kind and with the same text.
-/

namespace RegionGrid

open Binary64 (StandsFor)

namespace TrackSize

variable {make : Float → TrackSize Float} {size : TrackSize Float} {x : Float} {r : ℚ}

theorem ofValue_text_eq_ok_iff (hmake : make = fixed ∨ make = flex) :
    ofValue (.string (make x).text) = .ok size ↔ ∃ y, readBack? x = some y ∧ make y = size := by
  rw [ofValue_string_eq_ok_iff, ofText?_text, ← Option.map_eq_some_iff]
  rcases hmake with rfl | rfl <;> rfl

theorem text_eq_of_readBack? {y : Float} (hmake : make = fixed ∨ make = flex) (hread : readBack? x = some y) :
    (make y).text = (make x).text := by
  have htext := roundedText_eq_of_readBack? hread
  rcases hmake with rfl | rfl <;> rw [text, text, htext]

/--
The text of a finite number with a unit is read exactly if the number is zero or has a decimal exponent between
-4 and 5 once it is rounded to six digits. What is read is of the same kind and has the same text.
-/
theorem ofValue_text (hmake : make = fixed ∨ make = flex) (hx : StandsFor x r) :
    ((∃ size, ofValue (.string (make x).text) = .ok size) ↔
        r = 0 ∨ ∃ d, Decimal.IsRounded 6 |r| d ∧ -4 ≤ Int.log 10 d.size ∧ Int.log 10 d.size ≤ 5) ∧
      ∀ size, ofValue (.string (make x).text) = .ok size → ∃ y, size = make y ∧ size.text = (make x).text := by
  simp only [ofValue_text_eq_ok_iff hmake]
  constructor
  · obtain ⟨negative, m, e, hparts, habs⟩ := hx.exists_abs_eq
    have hzero : r = 0 ↔ m = 0 := by
      rw [← abs_eq_zero, habs, mul_eq_zero, or_iff_left (zpow_ne_zero e two_ne_zero), Nat.cast_eq_zero]
    rw [exists_comm, hzero, habs, ← exists_readBack?_iff hparts]
    exact exists_congr fun y => ⟨fun ⟨_, hread, _⟩ => hread, fun hread => ⟨_, hread, rfl⟩⟩
  · intro size hread
    obtain ⟨y, hread, rfl⟩ := hread
    exact ⟨y, rfl, text_eq_of_readBack? hmake hread⟩

/-- Half of a unit below a million is rounded up and refused, one and a half below it is rounded down and read. -/
theorem ofValue_text_tie :
    (∃ y, ofValue (.string (fixed (Binary64.nearest false 1999997 2)).text) = .ok (fixed y) ∧
        (fixed y).text = (fixed (Binary64.nearest false 1999997 2)).text) ∧
      ¬ ∃ size, ofValue (.string (flex (Binary64.nearest true 1999999 2)).text) = .ok size := by
  have hread : StandsFor (Binary64.nearest false 1999997 2) ((1999997 : ℕ) / (2 : ℕ)) := by
    have hparts : Binary64.ofFloat (Binary64.nearest false 1999997 2) = .finite false (1999997 * 2 ^ 32) (-33) := rfl
    rw [StandsFor, hparts, Binary64.value?]
    norm_num
  have hrefused : StandsFor (Binary64.nearest true 1999999 2) (-((1999999 : ℕ) / (2 : ℕ))) := by
    have hparts : Binary64.ofFloat (Binary64.nearest true 1999999 2) = .finite true (1999999 * 2 ^ 32) (-33) := rfl
    rw [StandsFor, hparts, Binary64.value?]
    norm_num
  constructor
  · obtain ⟨hread, hsame⟩ := ofValue_text (.inl rfl) hread
    have hplaces : ∃ size, ofValue (.string (fixed (Binary64.nearest false 1999997 2)).text) = .ok size := by
      apply hread.mpr
      right
      refine ⟨Decimal.rounded 6 1999997 2, ?_, ?_⟩
      · rw [abs_of_pos (by norm_num), Decimal.isRounded_iff (by decide) (by decide)]
      · rw [← Decimal.leadingExponent_eq_log (by decide)]
        decide
    obtain ⟨size, hsize⟩ := hplaces
    obtain ⟨y, rfl, htext⟩ := hsame size hsize
    exact ⟨y, hsize, htext⟩
  · rw [(ofValue_text (.inr rfl) hrefused).1, abs_neg, abs_of_pos (by norm_num)]
    rintro (hzero | ⟨d, hd, hplaces⟩)
    · norm_num at hzero
    · rw [Decimal.isRounded_iff (by decide) (by decide)] at hd
      rw [hd, ← Decimal.leadingExponent_eq_log (by decide)] at hplaces
      exact absurd hplaces (by decide)

end TrackSize

end RegionGrid
