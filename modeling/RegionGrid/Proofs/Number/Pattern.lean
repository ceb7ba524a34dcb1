import Mathlib
import RegionGrid.Proofs.Number.Nearest

/-!
# Bit patterns of doubles

A pattern up to that of infinity, with or without the sign bit, is the pattern of the double that is made
from it. Taking that double apart gives the mantissa and the exponent that the pattern was composed of, so
that the double nearest to a quotient is known by its value.
-/

namespace RegionGrid.Binary64

open Float.Model (UnpackedFloat Format)

variable {num den bits q : ℕ} {negative : Bool}

theorem toBits_ofBits {u : UInt64} (hu : u.toNat % 2 ^ 63 ≤ 0x7ff * 2 ^ 52) :
    (Float.ofBits u).toBits = u := by
  have hnumber : @UnpackedFloat.isNaNBits Format.binary64 u.toBitVec = false := by
    rw [UnpackedFloat.isNaNBits, decide_eq_false_iff_not, not_and_not_right]
    intro hexponent
    have hexponent := congrArg BitVec.toNat hexponent
    apply BitVec.eq_of_toNat_eq
    rw [UnpackedFloat.unpackMantissa_def]
    rw [UnpackedFloat.unpackExponent_def] at hexponent
    simp [Nat.shiftRight_eq_div_pow, Format.binary64] at hexponent ⊢
    omega
  have hbits : (Float.ofBits u).toBits.toBitVec = u.toBitVec := by
    change UnpackedFloat.pack Format.binary64 (UnpackedFloat.unpack Format.binary64 u.toBitVec) = _
    rw [UnpackedFloat.pack_unpack, if_neg (by simp [hnumber])]
  exact UInt64.toBitVec_inj.mp hbits

/-- A pattern without its sign, taken apart. -/
theorem ofFloat_ofBits (hbits : bits ≤ 0x7ff * 2 ^ 52) :
    ofFloat (Float.ofBits (UInt64.ofNat (bits + if negative then 1 <<< 63 else 0))) =
      if bits = 0x7ff * 2 ^ 52 then infinite negative
      else if bits < 2 ^ 52 then finite negative bits (-1074)
      else finite negative (2 ^ 52 + bits % 2 ^ 52) ((bits / 2 ^ 52 : ℕ) - 1075) := by
  generalize hu : UInt64.ofNat (bits + if negative then 1 <<< 63 else 0) = u
  have hpattern : u.toNat = bits + if negative then 2 ^ 63 else 0 := by
    rw [← hu]
    cases negative <;> simp <;> omega
  have hsize : u.toNat % 2 ^ 63 = bits := by
    rw [hpattern]
    split <;> omega
  have hsign : (u.toNat >>> 63 == 1) = negative := by
    rw [hpattern, Nat.shiftRight_eq_div_pow]
    cases negative <;> simp <;> omega
  have hexponent : u.toNat >>> 52 % 0x800 = bits / 2 ^ 52 := by
    rw [Nat.shiftRight_eq_div_pow]
    omega
  have hfraction : u.toNat % 1 <<< 52 = bits % 2 ^ 52 := by
    rw [Nat.shiftLeft_eq, one_mul]
    omega
  simp only [ofFloat, toBits_ofBits (hsize ▸ hbits), hsign, hexponent, hfraction]
  rcases hbits.lt_or_eq with hfinite | hinfinite
  · have hexponent' : bits / 2 ^ 52 ≠ 0x7ff := by omega
    rw [if_neg hexponent', if_neg hfinite.ne]
    by_cases hsmall : bits < 2 ^ 52
    · rw [if_pos (Nat.div_eq_of_lt hsmall), if_pos hsmall, Nat.mod_eq_of_lt hsmall]
    · have hnormal : bits / 2 ^ 52 ≠ 0 := by omega
      rw [if_neg hnormal, if_neg hsmall, Nat.shiftLeft_eq, one_mul]
  · rw [hinfinite]
    rfl

theorem ofFloat_nearest_zero (den : ℕ) : ofFloat (nearest negative 0 den) = finite negative 0 (-1074) :=
  ofFloat_ofBits (Nat.zero_le _)

theorem ofFloat_nearest_of_ge (hnum : 0 < num) (hden : 0 < den)
    (hlarge : (2 ^ 1024 - 2 ^ 970 : ℚ) ≤ num / den) : ofFloat (nearest negative num den) = infinite negative := by
  rw [nearest, nearestBits_of_ge hnum hden hlarge, ofFloat_ofBits le_rfl, if_pos rfl]

/-- The double nearest to a number: its units, or the next power of two if they are rounded up to that. -/
theorem ofFloat_nearest_of_lt (hnum : 0 < num) (hden : 0 < den)
    (hsmall : (num / den : ℚ) < 2 ^ 1024 - 2 ^ 970)
    (hq : IsNearest (num / den / 2 ^ lastBitOf (num / den)) q) :
    ofFloat (nearest negative num den) =
      if q < 2 ^ 53 then finite negative q (lastBitOf (num / den))
      else finite negative (2 ^ 52) (lastBitOf (num / den) + 1) := by
  have hpos : (0 : ℚ) < num / den := by
    have hden' : (0 : ℚ) < den := by exact_mod_cast hden
    positivity
  have hlt := (nearestBits_lt_iff hnum hden).mpr hsmall
  have hbits := nearestBits_eq hnum hden hq
  obtain ⟨hhigh, hlow⟩ := units_bounds hpos hq
  have hleast : -1074 ≤ lastBitOf (num / den) := le_max_right _ _
  rw [nearest, ofFloat_ofBits hlt.le, if_neg hlt.ne]
  generalize lastBitOf (num / den : ℚ) = w at *
  generalize nearestBits num den = bits at *
  have hbits : bits = (w + 1074).toNat * 2 ^ 52 + q := by omega
  split_ifs with htiny hunits
  · congr 1
    · omega
    · omega
  · omega
  · congr 1
    · omega
    · omega
  · congr 1
    · omega
    · omega

/-- Away from the smallest and the largest doubles, the nearest one is within half of its last bit. -/
theorem exists_ofFloat_nearest_near (negative : Bool) (hnum : 0 < num) (hden : 0 < den)
    (hnormal : -1074 < lastBitOf (num / den)) (hsmall : (num / den : ℚ) < 2 ^ 1024 - 2 ^ 970) :
    ∃ (mantissa : ℕ) (exponent : ℤ), ofFloat (nearest negative num den) = finite negative mantissa exponent ∧
      0 < mantissa ∧ |(mantissa * 2 ^ exponent : ℚ) - num / den| ≤ num / den / 2 ^ 53 := by
  have hden' : (0 : ℚ) < den := by exact_mod_cast hden
  have hpos : (0 : ℚ) < num / den := by positivity
  have hq := isNearest_scaledQuotient num (lastBitOf (num / den)) hden
  rw [ofFloat_nearest_of_lt hnum hden hsmall hq]
  generalize scaledQuotient num den _ = q at hq
  generalize (num / den : ℚ) = r at *
  have hlow := (units_between hpos).2 hnormal
  have hqBounds := units_bounds hpos hq
  have hunit : (0 : ℚ) < 2 ^ lastBitOf r := zpow_pos two_pos _
  generalize lastBitOf r = w at *
  have hnear : |(q * 2 ^ w : ℚ) - r| ≤ r / 2 ^ 53 := by
    rw [le_div_iff₀ hunit] at hlow
    calc
      |(q * 2 ^ w : ℚ) - r| = |r / 2 ^ w - q| * 2 ^ w := by
        rw [← abs_of_pos hunit, ← abs_mul, abs_of_pos hunit, sub_mul, div_mul_cancel₀ _ hunit.ne', abs_sub_comm]
      _ ≤ 1 / 2 * 2 ^ w := by gcongr; exact hq.1
      _ ≤ r / 2 ^ 53 := by
        rw [le_div_iff₀ (by positivity)]
        linarith
  split_ifs with hunits
  · exact ⟨q, w, rfl, (Nat.pow_pos two_pos).trans_le (hqBounds.2 hnormal), hnear⟩
  · have hq : q = 2 ^ 53 := le_antisymm hqBounds.1 (not_lt.mp hunits)
    refine ⟨2 ^ 52, w + 1, rfl, by decide, ?_⟩
    have hsame : ((2 ^ 52 : ℕ) * 2 ^ (w + 1) : ℚ) = q * 2 ^ w := by
      rw [hq, zpow_add_one₀ two_ne_zero]
      push_cast
      ring
    rw [hsame]
    exact hnear

end RegionGrid.Binary64
