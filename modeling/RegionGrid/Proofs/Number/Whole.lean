import RegionGrid.Proofs.Number.Closest
import RegionGrid.Proofs.Number.ExactSum

/-!
# Natural numbers among the doubles

A natural number that a double can stand for is turned into that double, and it is compared with any other double
as that double is. So it makes no difference whether one computes with the number or with the double.
-/

namespace RegionGrid.Binary64

open Float.Model (UnpackedFloat)

theorem natCast_lt_mul_zpow_iff (n m : ℕ) (e : ℤ) :
    (n : ℚ) < m * 2 ^ e ↔ n <<< (-e).toNat < m <<< e.toNat := by
  rw [Nat.shiftLeft_eq, Nat.shiftLeft_eq]
  rcases le_total 0 e with he | he
  · obtain ⟨k, rfl⟩ := Int.eq_ofNat_of_zero_le he
    have hnone : (-(k : ℤ)).toNat = 0 := by omega
    rw [hnone, pow_zero, mul_one, Int.toNat_natCast, zpow_natCast]
    exact_mod_cast Iff.rfl
  · obtain ⟨k, hk⟩ := Int.eq_ofNat_of_zero_le (neg_nonneg.mpr he)
    obtain rfl : e = -k := by omega
    have hnone : (-(k : ℤ)).toNat = 0 := by omega
    rw [hnone, neg_neg, Int.toNat_natCast, pow_zero, mul_one, zpow_neg, zpow_natCast, ← div_eq_mul_inv,
      lt_div_iff₀ (by positivity)]
    exact_mod_cast Iff.rfl

section

variable {n : ℕ} {x y : Float}

theorem isNaN_eq_false_iff : x.isNaN = false ↔ ofFloat x ≠ nan := by
  rw [Bool.eq_false_iff, ne_eq, isNaN_iff_unpack, ofFloat_eq]
  cases x.toModel.unpack <;> simp [ofUnpacked]

theorem StandsFor.not_nan {q : ℚ} (hx : StandsFor x q) : x.isNaN = false := by
  rw [isNaN_eq_false_iff]
  intro hnan
  rw [StandsFor, hnan] at hx
  cases hx

/-- What is finite lies below an infinity exactly if that is the positive one. -/
theorem StandsFor.lt_infinite_iff {q : ℚ} {negative : Bool} (hx : StandsFor x q)
    (hy : ofFloat y = infinite negative) : x < y ↔ negative = false := by
  have hdenotes := standsFor_iff_denotes.mp hx
  have hnumber : y.isNaN = false := isNaN_eq_false_iff.mpr (by simp [hy])
  rw [lt_iff_place_lt hx.not_nan hnumber]
  rw [ofFloat_eq] at hy
  generalize y.toModel.unpack = v at *
  generalize x.toModel.unpack = u at *
  cases v with
  | infinity t =>
    cases hy
    cases hdenotes with
    | zero s => cases t <;> simp [place, Prod.Lex.toLex_lt_toLex, isNegative]
    | finite s hm _ => cases s <;> cases t <;> simp [place, Prod.Lex.toLex_lt_toLex, isNegative]
  | notANumber => cases hy
  | zero t => cases hy
  | finite t m e hm => cases hy

/-- A natural number is compared as the double that stands for it. -/
theorem natLt_iff (hx : StandsFor x n) : natLt n y = true ↔ x < y := by
  rw [natLt]
  cases hparts : ofFloat y with
  | nan => exact iff_of_false Bool.false_ne_true fun hlt => isNaN_eq_false_iff.mp (not_nan_of_lt hlt).2 hparts
  | infinite negative =>
    rw [hx.lt_infinite_iff hparts]
    cases negative <;> simp
  | finite negative m e =>
    have hy : StandsFor y (if negative then -(m * 2 ^ e : ℚ) else m * 2 ^ e) := by
      rw [StandsFor, hparts]
      rfl
    rw [hx.lt_iff hy]
    cases negative with
    | false => simp [natCast_lt_mul_zpow_iff]
    | true =>
      have hsize : (0 : ℚ) ≤ m * 2 ^ e := by positivity
      have hn : (0 : ℚ) ≤ n := Nat.cast_nonneg n
      refine iff_of_false Bool.false_ne_true (not_lt.mpr ?_)
      simp only [if_true]
      linarith

theorem StandsFor.nonpos_iff (hx : StandsFor x n) : x ≤ 0 ↔ n = 0 := by
  rw [hx.le_iff standsFor_zero, Nat.cast_nonpos]

end

theorem Representable.lt {q : ℚ} (hq : Representable q) : q < 2 ^ 1024 - 2 ^ 970 := by
  have hlimit : (0 : ℚ) < 2 ^ 1024 - 2 ^ 970 := sub_pos.mpr (pow_lt_pow_right₀ one_lt_two (by decide))
  obtain ⟨u, hu⟩ := hq
  cases hu with
  | zero s => exact hlimit
  | @finite s m e hm hcanonical =>
    have hsize : (0 : ℚ) < m * 2 ^ e := by positivity
    rw [apply_mul_eq]
    cases s with
    | negative => exact (neg_neg_of_pos hsize).trans hlimit
    | positive =>
      have hm : (m : ℚ) ≤ 2 ^ 53 - 1 := by
        have hmost := hcanonical.lt
        rw [le_sub_iff_add_le]
        exact_mod_cast hmost
      have he : (2 : ℚ) ^ e ≤ 2 ^ (971 : ℤ) := zpow_le_zpow_right₀ one_le_two hcanonical.most
      have hgap : (2 : ℚ) ^ 970 < 2 ^ 971 := pow_lt_pow_right₀ one_lt_two (by decide)
      have hsplit : (2 : ℚ) ^ 1024 = 2 ^ 53 * 2 ^ 971 := pow_add 2 53 971
      calc
        (m * 2 ^ e : ℚ) ≤ (2 ^ 53 - 1) * 2 ^ (971 : ℤ) := mul_le_mul hm he (by positivity) (by norm_num)
        _ = 2 ^ 1024 - 2 ^ 971 := by rw [sub_mul, one_mul, zpow_ofNat, hsplit]
        _ < 2 ^ 1024 - 2 ^ 970 := sub_lt_sub_left hgap _

/-- A double stands for every natural number that has no more bits than a mantissa. -/
theorem exists_standsFor {n : ℕ} (hn : n < 2 ^ 53) : ∃ x, StandsFor x n := by
  obtain ⟨u, hu⟩ : Representable (n : ℤ) := representable_intCast (by simpa using hn)
  rw [Int.cast_natCast] at hu
  exact ⟨⟨Float.Model.pack u⟩, standsFor_iff_denotes.mpr hu.unpack_pack⟩

/-- A positive natural number is turned into the double that stands for it. -/
theorem StandsFor.ofInt?_eq {n : ℕ} {x : Float} (hx : StandsFor x n) (hn : n ≠ 0) : ofInt? n = some x := by
  have hpos : (0 : ℚ) < n := by positivity
  have hsmall : (n : ℚ) < 2 ^ 1024 - 2 ^ 970 := Representable.lt ⟨_, standsFor_iff_denotes.mp hx⟩
  obtain ⟨negative, m, e, hparts, hsize⟩ := hx.exists_parts
  have hsigned : (0 : ℚ) ≤ m * 2 ^ e := by positivity
  cases negative with
  | true =>
    rw [if_pos rfl] at hsize
    linarith
  | false =>
    rw [if_neg Bool.false_ne_true] at hsize
    have hclosest : IsClosest false (n / (1 : ℕ)) x := by
      rw [Nat.cast_one, div_one]
      refine .finite hsmall hparts (fun y p _ => ?_) fun y p _ hne htie => ?_
      · rw [← hsize, sub_self, abs_zero]
        exact abs_nonneg _
      · rw [← hsize, sub_self, abs_zero, abs_eq_zero, sub_eq_zero] at htie
        exact absurd (htie.trans hsize) hne
    have hnear : ofInt? n ≠ none := by
      rw [lt_sub_iff_add_lt] at hsmall
      rw [ne_eq, ofInt?_eq_none_iff, not_le, Int.natAbs_natCast, lt_tsub_iff_right, ← @Nat.cast_lt ℚ, Nat.cast_add,
        Nat.cast_pow, Nat.cast_pow, Nat.cast_ofNat]
      exact hsmall
    have hsign : decide ((n : ℤ) < 0) = false := decide_eq_false (by omega)
    rw [ofInt?, hsign, Int.natAbs_natCast, ← (isClosest_iff one_pos).mp hclosest] at hnear ⊢
    exact if_pos (by_contra fun hlarge => hnear (if_neg hlarge))

end RegionGrid.Binary64
