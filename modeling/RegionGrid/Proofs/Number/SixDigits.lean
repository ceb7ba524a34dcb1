import RegionGrid.Proofs.Number.RoundedText

/-!
# Rounded to six digits

The rounded text of a double, told by the number it writes: that of six significant digits nearest to the
double. A text shows only the size of the number it writes, so the double that is read from a text has the same
rounded text again, although it may be another double.
-/

namespace RegionGrid

namespace Decimal

variable {digits num den : ℕ} {r : ℚ} {d d' : Decimal}

/-- A number rounded to a count of significant digits, a half going to the even digit. -/
structure IsRounded (digits : ℕ) (r : ℚ) (d : Decimal) : Prop where
  unit : d.exponent = Int.log 10 r + 1 - digits
  nearest : IsNearest (r / 10 ^ d.exponent) d.coefficient

theorem isRounded_iff (hnum : 0 < num) (hden : 0 < den) :
    IsRounded digits (num / den) d ↔ d = rounded digits num den := by
  have hrounded : IsRounded digits (num / den) (rounded digits num den) :=
    ⟨exponent_rounded digits hnum hden, isNearest_coefficient_rounded num digits hden⟩
  constructor
  · intro hd
    obtain ⟨coefficient, exponent⟩ := d
    obtain ⟨hunit, hnearest⟩ := hd
    obtain rfl : exponent = (rounded digits num den).exponent := hunit.trans hrounded.unit.symm
    obtain rfl : coefficient = (rounded digits num den).coefficient := hnearest.unique hrounded.nearest
    rfl
  · intro hd
    exact hd ▸ hrounded

theorem significantDigits_mul_pow {c : ℕ} (hc : 0 < c) (k : ℕ) (e e' : ℤ) :
    significantDigits ⟨c * 10 ^ k, e⟩ = significantDigits ⟨c, e'⟩ := by
  induction k with
  | zero => rw [pow_zero, mul_one, significantDigits, significantDigits]
  | succ k ih =>
    have hdigits : Nat.toDigits 10 (10 * (c * 10 ^ k) + 0) = Nat.toDigits 10 (c * 10 ^ k) ++ Nat.toDigits 10 0 :=
      (Nat.toDigits_append_toDigits (by decide) (by positivity) (by decide)).symm
    have hzero : Nat.toDigits 10 0 = ['0'] := rfl
    rw [← ih, significantDigits, significantDigits]
    dsimp only
    rw [pow_succ', mul_left_comm, ← Nat.add_zero (10 * _), hdigits, hzero, List.reverse_append]
    rfl

/-- A number is written by its size alone. -/
theorem text_congr (style : DecimalStyle) (hd : 0 < d.coefficient) (hd' : 0 < d'.coefficient)
    (hsize : d.size = d'.size) : d.text style = d'.text style := by
  wlog hle : d.exponent ≤ d'.exponent generalizing d d'
  · exact (this hd' hd hsize.symm (le_of_not_ge hle)).symm
  have hleading : d.leadingExponent = d'.leadingExponent := by
    rw [leadingExponent_eq_log hd, leadingExponent_eq_log hd', hsize]
  have hdigits : d.significantDigits = d'.significantDigits := by
    obtain ⟨c, e⟩ := d
    obtain ⟨c', e'⟩ := d'
    obtain ⟨k, hk⟩ := Int.le.dest hle
    obtain rfl : e' = k + e := hk.symm.trans (add_comm _ _)
    have hc : c = c' * 10 ^ k := by
      simp only [size] at hsize
      rw [zpow_add₀ (by norm_num), ← mul_assoc, zpow_natCast] at hsize
      have hcast := mul_right_cancel₀ (zpow_pos (by norm_num) e).ne' hsize
      exact_mod_cast hcast
    rw [hc, significantDigits_mul_pow hd' k e (k + e)]
  rw [text, text, hdigits, hleading]

end Decimal

section

open Binary64 (ofFloat)

variable {x y : Float} {negative : Bool} {mantissa : ℕ} {exponent : ℤ}

theorem roundedText_of_finite (hx : ofFloat x = .finite negative mantissa exponent) (hmantissa : 0 < mantissa) :
    roundedText x = signed negative ((Decimal.rounded 6 (quotientOf mantissa exponent).1
      (quotientOf mantissa exponent).2).text roundedStyle) := by
  obtain ⟨k, rfl⟩ := Nat.exists_eq_add_of_lt hmantissa
  simp only [roundedText, hx]

/-- A text is read if the number that it writes is neither too small nor too large for its places. -/
theorem exists_readBack?_iff (hx : ofFloat x = .finite negative mantissa exponent) :
    (∃ y, readBack? x = some y) ↔ mantissa = 0 ∨
      ∃ d, Decimal.IsRounded 6 (mantissa * 2 ^ exponent) d ∧ -4 ≤ Int.log 10 d.size ∧ Int.log 10 d.size ≤ 5 := by
  rcases Nat.eq_zero_or_pos mantissa with rfl | hmantissa
  · simp [readBack?, hx]
  · obtain ⟨hnum, hden⟩ := quotientOf_pos exponent hmantissa
    have hbounds := Decimal.coefficient_rounded_bounds 5 hnum hden
    simp only [readBack?_of_finite hx hmantissa, hmantissa.ne', false_or, ← quotientOf_eq,
      Decimal.isRounded_iff hnum hden, exists_eq_left]
    generalize Decimal.rounded 6 _ _ = d at *
    rw [← Decimal.leadingExponent_eq_log ((Nat.pow_pos (by decide)).trans_le hbounds.1)]
    split_ifs with hplaces
    · exact iff_of_true ⟨_, rfl⟩ hplaces
    · refine iff_of_false ?_ hplaces
      simp only [exists_false, not_false_eq_true]

/-- The double that a rounded text reads as has this text. -/
theorem roundedText_eq_of_readBack? (hread : readBack? x = some y) : roundedText y = roundedText x := by
  cases hx : ofFloat x with
  | nan => simp [readBack?, hx] at hread
  | infinite negative => simp [readBack?, hx] at hread
  | finite negative mantissa exponent =>
    rcases Nat.eq_zero_or_pos mantissa with rfl | hmantissa
    · simp only [readBack?, hx, Option.some.injEq] at hread
      simp only [← hread, roundedText, hx, Binary64.ofFloat_nearest_zero]
    · obtain ⟨hnum, hden⟩ := quotientOf_pos exponent hmantissa
      have hbounds := Decimal.coefficient_rounded_bounds 5 hnum hden
      rw [roundedText_of_finite hx hmantissa]
      rw [readBack?_of_finite hx hmantissa] at hread
      generalize Decimal.rounded 6 _ _ = d at *
      simp only at hread
      split_ifs at hread with hplaces
      rw [Option.some.injEq] at hread
      have hd : 0 < d.coefficient := (Nat.pow_pos (by decide)).trans_le hbounds.1
      obtain ⟨n, hsign, hdigits, hsize⟩ := Decimal.exists_numeral negative hbounds.2
      rw [Decimal.places_iff hd, ← hsize] at hplaces
      obtain ⟨mantissa', exponent', hy, hmantissa', hrounded⟩ := exists_rounded_toFloat hdigits hplaces
      obtain ⟨hnum', hden'⟩ := quotientOf_pos exponent' hmantissa'
      have hbounds' := Decimal.coefficient_rounded_bounds 5 hnum' hden'
      have hfloat : n.toFloat = y := hread ▸ Numeral.toFloat_congr hsign hsize
      rw [hfloat, hsign] at hy
      rw [roundedText_of_finite hy hmantissa']
      congr 1
      exact Decimal.text_congr _ ((Nat.pow_pos (by decide)).trans_le hbounds'.1) hd (hrounded.trans hsize)

end

end RegionGrid
