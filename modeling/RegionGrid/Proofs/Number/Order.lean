import RegionGrid.Number.Binary64
import Mathlib.Data.Prod.Lex
import Mathlib.Data.Int.Order.Basic
import Mathlib.Order.Compare

/-!
# Doubles in order

Doubles other than NaN are ordered as their places are: by sign and size, infinities at the ends. So they
compare like the elements of a linear order, and only NaN compares to nothing.
-/

namespace RegionGrid.Binary64

open Float.Model (UnpackedFloat)

/-- Where a double that is a number stands among the others. -/
def place : UnpackedFloat → ℤ ×ₗ ℤ ×ₗ ℤ
  | .infinity .negative => toLex (-2, toLex (0, 0))
  | .finite .negative mantissa exponent _ => toLex (-1, toLex (-exponent, -mantissa))
  | .zero _ | .notANumber => toLex (0, toLex (0, 0))
  | .finite .positive mantissa exponent _ => toLex (1, toLex (exponent, mantissa))
  | .infinity .positive => toLex (2, toLex (0, 0))

private theorem compare_natCast (m n : ℕ) : compare (m : ℤ) n = compare m n := by
  rcases lt_trichotomy m n with hlt | heq | hgt
  · rw [compare_lt_iff_lt.mpr hlt, compare_lt_iff_lt.mpr (Int.ofNat_lt.mpr hlt)]
  · simp [heq]
  · rw [compare_gt_iff_gt.mpr hgt, compare_gt_iff_gt.mpr (Int.ofNat_lt.mpr hgt)]

private theorem compare_neg_neg (m n : ℤ) : compare (-m) (-n) = (compare m n).swap := by
  rw [← Std.OrientedOrd.eq_swap]
  grind [compare_lt_iff_lt, compare_gt_iff_gt, compare_eq_iff_eq]

theorem compare_eq_compare_place {x y : UnpackedFloat} (hx : x.isNaN = false) (hy : y.isNaN = false) :
    x.compare y = some (compare (place x) (place y)) := by
  cases x with
  | notANumber => cases hx
  | infinity s =>
    cases y with
    | notANumber => cases hy
    | infinity t => cases s <;> cases t <;> rfl
    | zero t => cases s <;> rfl
    | finite t n f hn => cases s <;> cases t <;> rfl
  | zero s =>
    cases y with
    | notANumber => cases hy
    | infinity t => cases t <;> rfl
    | zero t => rfl
    | finite t n f hn => cases t <;> rfl
  | finite s m e hm =>
    cases y with
    | notANumber => cases hy
    | infinity t => cases s <;> cases t <;> rfl
    | zero t => cases s <;> rfl
    | finite t n f hn =>
      -- Two numbers of one sign are compared by exponent and mantissa, negative ones the other way round.
      cases s <;> cases t
      · change some ((compare e f).then (compare m n)).swap =
          some ((compare (-e) (-f)).then (compare (-(m : ℤ)) (-(n : ℤ))))
        rw [compare_neg_neg, compare_neg_neg, compare_natCast, Ordering.swap_then]
      · rfl
      · rfl
      · change some ((compare e f).then (compare m n)) =
          some ((compare e f).then (compare (m : ℤ) n))
        rw [compare_natCast]

private theorem unpacked_not_nan_of_compare {x y : UnpackedFloat} (hsome : x.compare y ≠ none) :
    x.isNaN = false ∧ y.isNaN = false := by
  cases x with
  | notANumber => exact absurd rfl hsome
  | _ =>
    cases y with
    | notANumber => exact absurd rfl hsome
    | _ => exact ⟨rfl, rfl⟩

section

variable {x y z : Float}

theorem lt_iff_place_lt (hx : x.isNaN = false) (hy : y.isNaN = false) :
    x < y ↔ place x.toModel.unpack < place y.toModel.unpack := by
  have hmodel : x < y ↔ x.toModel.unpack.lt y.toModel.unpack = true := decide_eq_true_iff
  rw [hmodel, UnpackedFloat.lt, compare_eq_compare_place hx hy, beq_iff_eq, Option.some.injEq,
    compare_lt_iff_lt]

theorem le_iff_place_le (hx : x.isNaN = false) (hy : y.isNaN = false) :
    x ≤ y ↔ place x.toModel.unpack ≤ place y.toModel.unpack := by
  have hmodel : x ≤ y ↔ x.toModel.unpack.le y.toModel.unpack = true := decide_eq_true_iff
  rw [hmodel, UnpackedFloat.le, compare_eq_compare_place hx hy, Option.any_some,
    Ordering.isLE_iff_ne_gt, compare_gt_iff_gt, not_lt]

theorem not_nan_of_lt (hlt : x < y) : x.isNaN = false ∧ y.isNaN = false := by
  have hmodel : x.toModel.unpack.lt y.toModel.unpack = true := of_decide_eq_true hlt
  exact unpacked_not_nan_of_compare fun hnone => by simp [UnpackedFloat.lt, hnone] at hmodel

theorem not_nan_of_le (hle : x ≤ y) : x.isNaN = false ∧ y.isNaN = false := by
  have hmodel : x.toModel.unpack.le y.toModel.unpack = true := of_decide_eq_true hle
  exact unpacked_not_nan_of_compare fun hnone => by simp [UnpackedFloat.le, hnone] at hmodel

theorem not_lt_iff_le (hx : x.isNaN = false) (hy : y.isNaN = false) : ¬ x < y ↔ y ≤ x := by
  rw [lt_iff_place_lt hx hy, le_iff_place_le hy hx, not_lt]

theorem lt_of_le_of_lt (hxy : x ≤ y) (hyz : y < z) : x < z := by
  obtain ⟨hx, hy⟩ := not_nan_of_le hxy
  obtain ⟨-, hz⟩ := not_nan_of_lt hyz
  rw [lt_iff_place_lt hy hz] at hyz
  rw [le_iff_place_le hx hy] at hxy
  exact (lt_iff_place_lt hx hz).mpr (hxy.trans_lt hyz)

theorem lt_of_lt_of_le (hxy : x < y) (hyz : y ≤ z) : x < z := by
  obtain ⟨hx, hy⟩ := not_nan_of_lt hxy
  obtain ⟨-, hz⟩ := not_nan_of_le hyz
  rw [lt_iff_place_lt hx hy] at hxy
  rw [le_iff_place_le hy hz] at hyz
  exact (lt_iff_place_lt hx hz).mpr (hxy.trans_le hyz)

end

end RegionGrid.Binary64
