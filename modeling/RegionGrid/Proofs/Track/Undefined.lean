import RegionGrid.Value.Number
import RegionGrid.Proofs.Number.Special
import RegionGrid.Proofs.Track.Resolve

/-!
# Sizes that are no numbers

Over doubles no size is ever negative, whatever is asked for, but it can be NaN, which is below no bound and so
is not cut off. This module says when: a fixed track asks for NaN, or the share of a track is zero times infinity
or infinity over infinity. NaN among the weights does no harm: it spoils their sum, and then nothing is shared.
-/

namespace RegionGrid

open Binary64

/--
What a weight gets of free space that is shared among weights with this sum is zero times infinity, or infinity
over infinity.
-/
def ShareUndefined (free weights weight : Float) : Prop :=
  free.isInf = true ∧ weights.isInf = true ∨ weight.isInf = true ∨
    (weight == 0) = true ∧ (free / weights).isInf = true

/-- What a track asks for, or what there is to share, leaves it without a size. -/
def TrackSize.Undefined (tracks : List (TrackSize Float)) (extent : Float) : TrackSize Float → Prop
  | fixed pixels => pixels.isNaN = true
  | track =>
    let free := freeSpace tracks extent
    let weights := pairwiseSum (tracks.map weight)
    0 < weights ∧ 0 < free ∧ ShareUndefined free weights track.weight

/-! ### Bounds -/

theorem isNaN_zero : (0 : Float).isNaN = false := by
  change (0 : Float).toModel.unpack.isNaN = false
  rw [unpack_zero]
  rfl

theorem zero_le_zero : (0 : Float) ≤ 0 := by
  rw [le_iff_place_le isNaN_zero isNaN_zero]

theorem isNaN_atLeastZero (x : Float) : (atLeastZero x).isNaN = x.isNaN := by
  rw [atLeastZero]
  split
  · next hx => rw [isNaN_zero, (not_nan_of_lt hx).1]
  · rfl

theorem nonneg_atLeastZero_iff (x : Float) : 0 ≤ atLeastZero x ↔ (atLeastZero x).isNaN = false := by
  rw [isNaN_atLeastZero, atLeastZero]
  split
  · next hx => exact iff_of_true zero_le_zero (not_nan_of_lt hx).1
  · next hx =>
    constructor
    · intro hle
      exact (not_nan_of_le hle).2
    · intro hnumber
      exact (not_lt_iff_le hnumber isNaN_zero).mp hx

/-! ### Shares -/

section Shares

variable {xs : List Float} {free x : Float}

/-- A sum that is positive has no NaN among its terms, and an infinite term makes it infinite. -/
theorem term_of_sum_pos (hpos : 0 < pairwiseSum xs) (hx : x ∈ xs) :
    x.isNaN = false ∧ (x.isInf = true → (pairwiseSum xs).isInf = true) := by
  have hnumber := (not_nan_of_lt hpos).2
  refine ⟨forall_of_pairwiseSum (P := fun x => x.isNaN = false) (fun _ _ => not_nan_of_add) hnumber x hx,
    fun hinfinite => ?_⟩
  by_contra hsum
  rw [Bool.not_eq_true] at hsum
  have hfinite := isFinite_iff.mpr ⟨hnumber, hsum⟩
  have hx := forall_of_pairwiseSum (P := fun x => x.isFinite = true) (fun _ _ => isFinite_of_add) hfinite x hx
  rw [(isFinite_iff.mp hx).2] at hinfinite
  cases hinfinite

theorem isNaN_share_iff (hfree : 0 < free) (hpos : 0 < pairwiseSum xs) (hx : x ∈ xs) :
    (x * (free / pairwiseSum xs)).isNaN = true ↔ ShareUndefined free (pairwiseSum xs) x := by
  obtain ⟨hnumber, hinfinite⟩ := term_of_sum_pos hpos hx
  have hunit : (free / pairwiseSum xs).isNaN = true ↔ free.isInf = true ∧ (pairwiseSum xs).isInf = true := by
    rw [isNaN_div_iff, (not_nan_of_lt hfree).2, (not_nan_of_lt hpos).2, not_beq_zero_of_pos hfree]
    simp
  rw [isNaN_mul_iff, hunit, hnumber]
  constructor
  · rintro (h | h | h | h)
    · cases h
    · exact .inl h
    · exact .inr (.inl h.1)
    · exact .inr (.inr h)
  · rintro (h | h | h)
    · exact .inr (.inl h)
    · -- Beside an infinite weight the share of a unit vanishes, unless there is infinitely much to share.
      by_cases hfreeInf : free.isInf = true
      · exact .inr (.inl ⟨hfreeInf, hinfinite h⟩)
      · rw [Bool.not_eq_true] at hfreeInf
        have hfinite := isFinite_iff.mpr ⟨(not_nan_of_lt hfree).2, hfreeInf⟩
        exact .inr (.inr (.inl ⟨h, div_beq_zero_of_isInf hfinite (hinfinite h)⟩))
    · exact .inr (.inr (.inr h))

/-- What a weight gets, if there is something to share and something that shares it. -/
def shareOf (free weights weight : Float) : Float :=
  if 0 < weights ∧ 0 < free then atLeastZero (weight * (free / weights)) else 0

theorem nonneg_shareOf_iff (free weights weight : Float) :
    0 ≤ shareOf free weights weight ↔ (shareOf free weights weight).isNaN = false := by
  rw [shareOf]
  split
  · exact nonneg_atLeastZero_iff _
  · exact iff_of_true zero_le_zero isNaN_zero

theorem isNaN_shareOf_iff (hx : x ∈ xs) :
    (shareOf free (pairwiseSum xs) x).isNaN = true ↔
      0 < pairwiseSum xs ∧ 0 < free ∧ ShareUndefined free (pairwiseSum xs) x := by
  rw [shareOf, ← and_assoc]
  split
  · next hshared =>
    rw [isNaN_atLeastZero, isNaN_share_iff hshared.2 hshared.1 hx]
    exact (and_iff_right hshared).symm
  · next hshared =>
    rw [isNaN_zero]
    exact iff_of_false (fun h => by cases h) fun h => hshared h.1

end Shares

/-! ### Sizes -/

/-- The size of a track when this much space is shared among weights with this sum. -/
def sharedSize (free weights : Float) : TrackSize Float → Float
  | .fixed pixels => atLeastZero pixels
  | track => shareOf free weights track.weight

theorem shareOut_eq_map_sharedSize (tracks : List (TrackSize Float)) (extent : Float) :
    shareOut tracks extent =
      tracks.map (sharedSize (freeSpace tracks extent) (pairwiseSum (tracks.map TrackSize.weight))) := by
  rw [shareOut]
  apply List.map_congr_left
  intro track _
  cases track <;> rfl

theorem nonneg_sharedSize_iff (free weights : Float) (track : TrackSize Float) :
    0 ≤ sharedSize free weights track ↔ (sharedSize free weights track).isNaN = false := by
  cases track with
  | fixed pixels => exact nonneg_atLeastZero_iff pixels
  | flex factor => exact nonneg_shareOf_iff free weights factor
  | content => exact nonneg_shareOf_iff free weights 1

theorem isNaN_sharedSize_iff {tracks : List (TrackSize Float)} {track : TrackSize Float} (htrack : track ∈ tracks)
    (extent : Float) :
    (sharedSize (freeSpace tracks extent) (pairwiseSum (tracks.map TrackSize.weight)) track).isNaN = true ↔
      track.Undefined tracks extent := by
  have hweight : track.weight ∈ tracks.map TrackSize.weight := List.mem_map_of_mem htrack
  cases track with
  | fixed pixels =>
    change (atLeastZero pixels).isNaN = true ↔ pixels.isNaN = true
    rw [isNaN_atLeastZero]
  | flex factor => exact isNaN_shareOf_iff hweight
  | content => exact isNaN_shareOf_iff hweight

/--
There is a size for each track, and it is at least zero or NaN. It is NaN exactly if there is an extent to share
and the track is undefined.
-/
theorem resolve_isNaN_iff_undefined (specs : List (TrackSize Float)) (extent : Float) (count : Int) :
    let tracks := paddedTracks specs count.toNat
    let sizes := resolve specs extent count
    sizes.length = count.toNat ∧
      ∀ (i : ℕ) (track : TrackSize Float) (size : Float), tracks[i]? = some track → sizes[i]? = some size →
        (0 ≤ size ↔ size.isNaN = false) ∧
          (size.isNaN = true ↔ ¬ extent ≤ 0 ∧ track.Undefined tracks extent) := by
  intro tracks sizes
  refine ⟨length_resolve specs extent count, fun i track size htrack hsize => ?_⟩
  simp only [sizes, resolve] at hsize
  by_cases hextent : extent ≤ 0
  · rw [if_pos hextent, List.getElem?_map, htrack] at hsize
    cases hsize
    rw [isNaN_zero]
    exact ⟨iff_of_true zero_le_zero rfl, iff_of_false (fun h => by cases h) fun h => h.1 hextent⟩
  · rw [if_neg hextent, shareOut_eq_map_sharedSize, List.getElem?_map, htrack] at hsize
    cases hsize
    have hnan := isNaN_sharedSize_iff (List.mem_of_getElem? htrack) extent
    exact ⟨nonneg_sharedSize_iff _ _ track, hnan.trans (and_iff_right hextent).symm⟩

/-- The list of one NaN is read as a track that asks for NaN, and this is what its size is. -/
theorem resolve_nan :
    ∃ specs, TrackSize.listOfValue (.list [.float (0 / 0)]) = .ok specs ∧
      ∃ size ∈ resolve specs 100 1, ¬ 0 ≤ size := by
  refine ⟨[.fixed (0 / 0)], rfl, ?_⟩
  decide +kernel

end RegionGrid
