import RegionGrid.Number.Binary64
import Mathlib.Data.Int.Log
import Mathlib.Data.Rat.Floor
import Mathlib.Tactic.FieldSimp
import Mathlib.Tactic.Linarith

/-!
# Quotients rounded to whole numbers

Doubles and decimal numbers are both found by rounding a quotient, brought to the unit in question, to a
whole number. What it is rounded to is pinned down by the value of the quotient alone: no other whole number
is as near, or it is the even one of two.
-/

namespace RegionGrid

theorem pow_toNat_div_pow_toNat (b : ℚ) (k : ℤ) :
    b ^ k.toNat / b ^ (-k).toNat = b ^ k := by
  obtain ⟨n, rfl | rfl⟩ := Int.eq_nat_or_neg k
  · simp
  · simp

theorem log_eq_of_between {b : ℕ} {r : ℚ} {k : ℤ} (hb : 1 < b) (hle : (b : ℚ) ^ k ≤ r)
    (hlt : r < (b : ℚ) ^ (k + 1)) : Int.log b r = k := by
  have hb₀ : (0 : ℚ) < b := by exact_mod_cast Nat.zero_lt_of_lt hb
  have hr : 0 < r := (zpow_pos hb₀ k).trans_le hle
  have hge := (Int.zpow_le_iff_le_log hb hr).mp hle
  have hlt := (Int.lt_zpow_iff_log_lt hb hr).mp hlt
  omega

/-- The whole number nearest to a quotient, and of two equally near ones the even one. -/
def IsNearest (x : ℚ) (n : ℕ) : Prop := |x - n| ≤ 1 / 2 ∧ (|x - n| = 1 / 2 → Even n)

namespace IsNearest

variable {x : ℚ} {m n : ℕ}

theorem of_abs_sub_lt (hlt : |x - n| < 1 / 2) : IsNearest x n := ⟨hlt.le, fun htie => absurd htie hlt.ne⟩

theorem le_of_le (hx : IsNearest x n) (hm : m ≤ x) : m ≤ n := by
  have habs := abs_le.mp hx.1
  have hlt : (m : ℚ) < n + 1 := by linarith
  exact Nat.lt_succ_iff.mp (by exact_mod_cast hlt)

theorem ge_of_ge (hx : IsNearest x n) (hm : x ≤ m) : n ≤ m := by
  have habs := abs_le.mp hx.1
  have hlt : (n : ℚ) < m + 1 := by linarith
  exact Nat.lt_succ_iff.mp (by exact_mod_cast hlt)

/-- A quotient is rounded up to an even number from exactly half of the way on. -/
theorem even_le_iff (hx : IsNearest x n) (hm : Even m) : m ≤ n ↔ m - 1 / 2 ≤ x := by
  have habs := abs_le.mp hx.1
  constructor
  · intro hle
    have hle : (m : ℚ) ≤ n := by exact_mod_cast hle
    linarith
  · intro hhalf
    by_contra hlt
    have hlt : n + 1 ≤ m := by omega
    have hcast : (n : ℚ) + 1 ≤ m := by exact_mod_cast hlt
    have hsub : x - n = 1 / 2 := by linarith
    have htie : |x - n| = 1 / 2 := by rw [hsub]; norm_num
    have hgap : (m : ℚ) = n + 1 := by linarith
    have hgap : m = n + 1 := by exact_mod_cast hgap
    have heven := hx.2 htie
    grind

theorem unique (hm : IsNearest x m) (hn : IsNearest x n) : m = n := by
  -- Two different numbers are both at a half from the quotient, so both are even, and yet neighbours.
  wlog hlt : m < n generalizing m n
  · rcases Nat.lt_trichotomy m n with h | h | h
    · exact this hm hn h
    · exact h
    · exact (this hn hm h).symm
  have hcast : (m : ℚ) + 1 ≤ n := by exact_mod_cast hlt
  have hbelow := abs_le.mp hm.1
  have habove := abs_le.mp hn.1
  have hm' : x - m = 1 / 2 := by linarith
  have hn' : x - n = -(1 / 2) := by linarith
  have hmEven : Even m := hm.2 (by rw [hm']; norm_num)
  have hnEven : Even n := hn.2 (by rw [hn']; norm_num)
  have hgap : (n : ℚ) = m + 1 := by linarith
  have hgap : n = m + 1 := by exact_mod_cast hgap
  grind

end IsNearest

namespace Binary64

variable {num den n : ℕ} {shift : ℤ}

theorem isNearest_roundedQuotient (hden : 0 < den) : IsNearest (num / den) (roundedQuotient num den) := by
  have hden' : (0 : ℚ) < den := by exact_mod_cast hden
  have hdivision : (num : ℚ) = den * (num / den : ℕ) + (num % den : ℕ) := by
    exact_mod_cast (Nat.div_add_mod num den).symm
  have hsplit : (num : ℚ) / den = (num / den : ℕ) + (num % den : ℕ) / den := by
    rw [div_eq_iff hden'.ne', add_mul, div_mul_cancel₀ _ hden'.ne', mul_comm]
    exact hdivision
  have hmod : ((num % den : ℕ) : ℚ) / den < 1 := by
    rw [div_lt_one hden']
    exact_mod_cast Nat.mod_lt num hden
  have hpos : 0 ≤ ((num % den : ℕ) : ℚ) / den := by positivity
  have hhalf : ((num % den : ℕ) : ℚ) / den < 1 / 2 ↔ 2 * (num % den) < den := by
    rw [div_lt_iff₀ hden', ← @Nat.cast_lt ℚ]
    push_cast
    constructor <;> intro hlt <;> linarith
  have hhalf' : 1 / 2 < ((num % den : ℕ) : ℚ) / den ↔ den < 2 * (num % den) := by
    rw [lt_div_iff₀ hden', ← @Nat.cast_lt ℚ]
    push_cast
    constructor <;> intro hlt <;> linarith
  rw [hsplit]
  simp only [roundedQuotient]
  generalize ((num % den : ℕ) : ℚ) / den = fraction at *
  split_ifs with hbelow habove
  · have hlt := hhalf.mpr hbelow
    exact .of_abs_sub_lt (by rw [add_sub_cancel_left, abs_of_nonneg hpos]; exact hlt)
  · have hlt := hhalf'.mpr habove
    refine .of_abs_sub_lt (abs_lt.mpr ?_)
    push_cast
    constructor <;> linarith
  · have htie : fraction = 1 / 2 :=
      le_antisymm (not_lt.mp (mt hhalf'.mp habove)) (not_lt.mp (mt hhalf.mp hbelow))
    have heven : Even (num / den + num / den % 2) := by grind
    refine ⟨?_, fun _ => heven⟩
    rcases Nat.mod_two_eq_zero_or_one (num / den) with h | h <;> rw [h, htie] <;> norm_num

theorem isNearest_scaledQuotient (num : ℕ) (shift : ℤ) (hden : 0 < den) :
    IsNearest (num / den / 2 ^ shift) (scaledQuotient num den shift) := by
  have hscaled : (num / den / 2 ^ shift : ℚ) =
      (num <<< (-shift).toNat : ℕ) / (den <<< shift.toNat : ℕ) := by
    rw [← pow_toNat_div_pow_toNat, Nat.shiftLeft_eq, Nat.shiftLeft_eq]
    push_cast
    field_simp
  rw [hscaled]
  exact isNearest_roundedQuotient (by rw [Nat.shiftLeft_eq]; positivity)

end Binary64

end RegionGrid
