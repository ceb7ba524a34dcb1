import Mathlib
import RegionGrid.Proofs.Number.Order

/-!
# Infinities and NaN in arithmetic

What becomes of the doubles that stand for no number when they are added, multiplied and divided. A sum is
finite only if both of its terms are. A product is NaN if a factor is, or if zero meets an infinity; a quotient
is NaN if one of its numbers is, or if two zeros or two infinities meet. Rounding turns no number into NaN,
although it may turn one into an infinity, so all of this is read off the operands.
-/

namespace RegionGrid.Binary64

open Float.Model (UnpackedFloat Format)
open Float.Model.UnpackedFloat

/-! ### Packing keeps what is no number -/

theorem unpack_pack_nan : (Float.Model.pack .notANumber).unpack = .notANumber := unpack_packedNaN

theorem unpack_pack_zero (s : Sign) : (Float.Model.pack (.zero s)).unpack = .zero s := unpack_packedZero

theorem unpack_pack_infinity (s : Sign) : (Float.Model.pack (.infinity s)).unpack = .infinity s := by
  cases s <;> rfl

private theorem isNaN_unpack_packComponents {spec : Format} (s : Sign) {exponent : BitVec spec.exponentBits}
    {mantissa : BitVec spec.mantissaBitsWithoutImplicit} (hnumber : exponent = -1#_ → mantissa = 0#_) :
    (unpack spec (packComponents spec s exponent mantissa)).isNaN = false := by
  simp only [unpack, unpackExponent_packComponents, unpackMantissa_packComponents]
  split_ifs with hexponent hmantissa
  · rfl
  · exact absurd (hnumber hexponent) hmantissa
  · rfl
  · rfl
  · rfl

private theorem isNaN_unpack_pack_finite {spec : Format} (s : Sign) (m : ℕ) (e : ℤ) (hm : 0 < m) :
    (unpack spec (pack spec (.finite s m e hm))).isNaN = false := by
  simp only [pack]
  split_ifs with hover hnormal
  · apply isNaN_unpack_packComponents
    intro _
    rfl
  · apply isNaN_unpack_packComponents
    intro hexponent
    have hexponent := congrArg BitVec.toNat hexponent
    simp [BitVec.neg_one_eq_allOnes] at hexponent
    rw [Nat.mod_eq_of_lt (by omega)] at hexponent
    omega
  · apply isNaN_unpack_packComponents
    intro hexponent
    have hbits := spec.he
    simp at hexponent
    omega

theorem isNaN_unpack_pack (u : UnpackedFloat) : (Float.Model.pack u).unpack.isNaN = u.isNaN := by
  cases u with
  | notANumber => rw [unpack_pack_nan]
  | zero s => rw [unpack_pack_zero]
  | infinity s => rw [unpack_pack_infinity]
  | finite s m e hm => exact isNaN_unpack_pack_finite s m e hm

theorem isFinite_unpack_pack_of_not {u : UnpackedFloat} (hu : u.isFinite = false) :
    (Float.Model.pack u).unpack.isFinite = false := by
  cases u with
  | notANumber => rw [unpack_pack_nan, hu]
  | infinity s => rw [unpack_pack_infinity, hu]
  | zero s => cases hu
  | finite s m e hm => cases hu

theorem isNaN_roundWithAccuracy (spec : Format) (s : Sign) (m : ℕ) (e : ℤ) (accuracy : Accuracy) :
    (roundWithAccuracy spec s m e accuracy).isNaN = false := by
  simp only [roundWithAccuracy]
  split <;> rfl

/-! ### Kinds of doubles -/

section

variable {x y : Float}

theorem unpack_zero : (0 : Float).toModel.unpack = .zero .positive := unpack_packedZero

theorem beq_zero_iff : (x == 0) = true ↔ ∃ s, x.toModel.unpack = .zero s := by
  change (x.toModel.unpack.compare (0 : Float).toModel.unpack == some .eq) = true ↔ _
  rw [unpack_zero]
  cases x.toModel.unpack with
  | notANumber => simp [UnpackedFloat.compare]
  | infinity s => cases s <;> simp [UnpackedFloat.compare]
  | zero s => simp [UnpackedFloat.compare]
  | finite s m e hm => cases s <;> simp [UnpackedFloat.compare]

theorem not_beq_zero_of_pos (hx : 0 < x) : (x == 0) = false := by
  rw [Bool.eq_false_iff, Ne, beq_zero_iff]
  rintro ⟨s, hzero⟩
  have hpos : (0 : Float).toModel.unpack.lt x.toModel.unpack = true := of_decide_eq_true hx
  rw [unpack_zero, hzero] at hpos
  cases hpos

theorem isNaN_iff_unpack : x.isNaN = true ↔ x.toModel.unpack = .notANumber := isNaN_iff

theorem isInf_iff_unpack : x.isInf = true ↔ ∃ s, x.toModel.unpack = .infinity s := by
  change x.toModel.unpack.isInf = true ↔ _
  cases x.toModel.unpack <;> simp [UnpackedFloat.isInf]

theorem isFinite_iff : x.isFinite = true ↔ x.isNaN = false ∧ x.isInf = false := by
  change x.toModel.unpack.isFinite = true ↔ x.toModel.unpack.isNaN = false ∧ x.toModel.unpack.isInf = false
  cases x.toModel.unpack <;> simp [UnpackedFloat.isFinite, UnpackedFloat.isNaN, UnpackedFloat.isInf]

/-! ### Arithmetic -/

theorem not_nan_of_add (hsum : (x + y).isNaN = false) : x.isNaN = false ∧ y.isNaN = false := by
  change (Float.Model.pack (UnpackedFloat.add _ x.toModel.unpack y.toModel.unpack)).unpack.isNaN = false at hsum
  rw [isNaN_unpack_pack] at hsum
  change x.toModel.unpack.isNaN = false ∧ y.toModel.unpack.isNaN = false
  generalize x.toModel.unpack = u at *
  generalize y.toModel.unpack = v at *
  cases u with
  | notANumber => cases hsum
  | _ =>
    cases v with
    | notANumber => cases hsum
    | _ => exact ⟨rfl, rfl⟩

private theorem isFinite_of_add_unpacked {u v : UnpackedFloat}
    (hsum : (UnpackedFloat.add Format.binary64 u v).isFinite = true) : u.isFinite = true ∧ v.isFinite = true := by
  cases u with
  | notANumber => cases hsum
  | infinity s =>
    cases v with
    | infinity t =>
      cases s
      · cases t <;> cases hsum
      · cases t <;> cases hsum
    | _ => cases hsum
  | zero s =>
    cases v with
    | notANumber => cases hsum
    | infinity t => cases hsum
    | _ => exact ⟨rfl, rfl⟩
  | finite s m e hm =>
    cases v with
    | notANumber => cases hsum
    | infinity t => cases hsum
    | _ => exact ⟨rfl, rfl⟩

theorem isFinite_of_add (hsum : (x + y).isFinite = true) : x.isFinite = true ∧ y.isFinite = true := by
  apply isFinite_of_add_unpacked
  by_contra hnot
  rw [Bool.not_eq_true] at hnot
  have hpacked : (x + y).isFinite = false := isFinite_unpack_pack_of_not hnot
  rw [hpacked] at hsum
  cases hsum

theorem isNaN_mul_iff :
    (x * y).isNaN = true ↔ x.isNaN = true ∨ y.isNaN = true ∨
      (x.isInf = true ∧ (y == 0) = true) ∨ ((x == 0) = true ∧ y.isInf = true) := by
  have hproduct : (x * y).isNaN = (UnpackedFloat.mul Format.binary64 x.toModel.unpack y.toModel.unpack).isNaN :=
    isNaN_unpack_pack _
  rw [hproduct, beq_zero_iff, beq_zero_iff, isInf_iff_unpack, isInf_iff_unpack, isNaN_iff_unpack, isNaN_iff_unpack]
  cases x.toModel.unpack with
  | notANumber => simp [UnpackedFloat.mul, isNaN_iff]
  | infinity s => cases y.toModel.unpack <;> simp [UnpackedFloat.mul, isNaN_iff]
  | zero s => cases y.toModel.unpack <;> simp [UnpackedFloat.mul, isNaN_iff]
  | finite s m e hm =>
    cases y.toModel.unpack with
    | finite t n f hn => simp [UnpackedFloat.mul, isNaN_roundWithAccuracy]
    | _ => simp [UnpackedFloat.mul, isNaN_iff]

theorem isNaN_div_iff :
    (x / y).isNaN = true ↔ x.isNaN = true ∨ y.isNaN = true ∨
      (x.isInf = true ∧ y.isInf = true) ∨ ((x == 0) = true ∧ (y == 0) = true) := by
  have hquotient : (x / y).isNaN = (UnpackedFloat.div Format.binary64 x.toModel.unpack y.toModel.unpack).isNaN :=
    isNaN_unpack_pack _
  rw [hquotient, beq_zero_iff, beq_zero_iff, isInf_iff_unpack, isInf_iff_unpack, isNaN_iff_unpack, isNaN_iff_unpack]
  cases x.toModel.unpack with
  | notANumber => simp [UnpackedFloat.div, isNaN_iff]
  | infinity s => cases y.toModel.unpack <;> simp [UnpackedFloat.div, isNaN_iff]
  | zero s => cases y.toModel.unpack <;> simp [UnpackedFloat.div, isNaN_iff]
  | finite s m e hm =>
    cases y.toModel.unpack with
    | finite t n f hn => simp [UnpackedFloat.div, isNaN_roundWithAccuracy]
    | _ => simp [UnpackedFloat.div, isNaN_iff]

/-- What is finite vanishes beside an infinity. -/
theorem div_beq_zero_of_isInf (hx : x.isFinite = true) (hy : y.isInf = true) : (x / y == 0) = true := by
  obtain ⟨t, hy⟩ := isInf_iff_unpack.mp hy
  rw [beq_zero_iff]
  change ∃ s, (Float.Model.pack (UnpackedFloat.div _ x.toModel.unpack y.toModel.unpack)).unpack = .zero s
  change x.toModel.unpack.isFinite = true at hx
  rw [hy]
  generalize x.toModel.unpack = u at *
  cases u with
  | notANumber => cases hx
  | infinity s => cases hx
  | zero s => exact ⟨s / t, unpack_pack_zero _⟩
  | finite s m e hm => exact ⟨s / t, unpack_pack_zero _⟩

end

end RegionGrid.Binary64
