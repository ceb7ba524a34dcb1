import RegionGrid.Proofs.Summation
import RegionGrid.Track.Resolve
import Mathlib.Algebra.Order.Field.Rat
import Mathlib.Data.List.Forall2

/-!
# Resolved sizes

What holds of the sizes of the tracks of an axis whatever is asked for. Over exact numbers none of them is
negative, and none of them shrinks when the extent grows.
-/

namespace RegionGrid

theorem atLeastZero_eq_max (x : ℚ) : atLeastZero x = max x 0 := by
  rw [atLeastZero]
  split
  · next hx => exact (max_eq_right hx.le).symm
  · next hx => exact (max_eq_left (not_lt.mp hx)).symm

theorem atLeastZero_nonneg (x : ℚ) : 0 ≤ atLeastZero x := by
  rw [atLeastZero_eq_max]
  exact le_max_right x 0

theorem shareOut_nonneg (tracks : List (TrackSize ℚ)) (extent : ℚ) :
    ∀ size ∈ shareOut tracks extent, 0 ≤ size := by
  intro size hsize
  obtain ⟨track, -, rfl⟩ := List.mem_map.mp hsize
  split
  · exact atLeastZero_nonneg _
  · split
    · exact atLeastZero_nonneg _
    · exact le_refl 0

theorem resolve_nonneg (specs : List (TrackSize ℚ)) (extent : ℚ) (count : Int) :
    ∀ size ∈ resolve specs extent count, 0 ≤ size := by
  rw [resolve]
  split
  · intro size hsize
    obtain ⟨_, -, rfl⟩ := List.mem_map.mp hsize
    exact le_refl 0
  · exact shareOut_nonneg _ _

theorem length_paddedTracks {α : Type} (specs : List (TrackSize α)) (count : Nat) :
    (paddedTracks specs count).length = count := by
  rw [paddedTracks, List.length_append, List.length_take, List.length_replicate]
  omega

theorem paddedTracks_of_length {α : Type} {specs : List (TrackSize α)} {count : Nat}
    (hlength : specs.length = count) : paddedTracks specs count = specs := by
  rw [paddedTracks, hlength, Nat.sub_self, List.replicate_zero, List.append_nil, ← hlength, List.take_length]

theorem length_resolve {α : Type} [Zero α] [One α] [Add α] [Sub α] [Mul α] [Div α] [LT α] [DecidableLT α]
    [LE α] [DecidableLE α] (specs : List (TrackSize α)) (extent : α) (count : Int) :
    (resolve specs extent count).length = count.toNat := by
  rw [resolve]
  split
  · rw [List.length_map, length_paddedTracks]
  · rw [shareOut, List.length_map, length_paddedTracks]

/-! ### Shares of the free space -/

section Shares

variable (tracks : List (TrackSize ℚ)) (extent : ℚ)

/-- What the fixed tracks ask for. -/
def fixedSum : ℚ := (tracks.filterMap TrackSize.pixels?).sum

def weightSum : ℚ := (tracks.map TrackSize.weight).sum

theorem freeSpace_eq : freeSpace tracks extent = max (extent - fixedSum tracks) 0 := by
  rw [freeSpace, pairwiseSum_eq_sum, atLeastZero_eq_max, fixedSum]

/-- What a weight of one gets of the free space. -/
def unitShare : ℚ := if 0 < weightSum tracks then freeSpace tracks extent / weightSum tracks else 0

theorem unitShare_nonneg : 0 ≤ unitShare tracks extent := by
  rw [unitShare, freeSpace_eq]
  split
  · next hweights => exact div_nonneg (le_max_right _ _) hweights.le
  · exact le_refl 0

theorem unitShare_mono {extent larger : ℚ} (hextent : extent ≤ larger) :
    unitShare tracks extent ≤ unitShare tracks larger := by
  rw [unitShare, unitShare, freeSpace_eq, freeSpace_eq]
  split
  · next hweights =>
    have hfree : max (extent - fixedSum tracks) 0 ≤ max (larger - fixedSum tracks) 0 :=
      max_le_max_right 0 (sub_le_sub_right hextent _)
    exact div_le_div_of_nonneg_right hfree hweights.le
  · exact le_refl 0

/-- A track has what it asks for and its share, one of which is zero. -/
theorem shareOut_eq_map :
    shareOut tracks extent = tracks.map fun track =>
      atLeastZero (track.pixels?.getD 0 + track.weight * unitShare tracks extent) := by
  have hfree : 0 ≤ freeSpace tracks extent := by
    rw [freeSpace_eq]
    exact le_max_right _ _
  have hshare : ∀ weight : ℚ,
      (if 0 < weightSum tracks ∧ 0 < freeSpace tracks extent then
        atLeastZero (weight * (freeSpace tracks extent / weightSum tracks)) else 0) =
      atLeastZero (0 + weight * unitShare tracks extent) := by
    intro weight
    rw [unitShare, zero_add]
    by_cases hweights : 0 < weightSum tracks
    · rcases hfree.lt_or_eq with hpos | hzero
      · rw [if_pos ⟨hweights, hpos⟩, if_pos hweights]
      · rw [if_pos hweights, ← hzero]
        simp [atLeastZero]
    · rw [if_neg fun h => hweights h.1, if_neg hweights]
      simp [atLeastZero]
  rw [shareOut, pairwiseSum_eq_sum, ← weightSum]
  apply List.map_congr_left
  intro track _
  cases track with
  | fixed pixels => simp [TrackSize.pixels?, TrackSize.weight]
  | flex factor => exact hshare factor
  | content => exact hshare 1

/-- The size of a track among the tracks of its axis. -/
def sizeAmong (track : TrackSize ℚ) : ℚ :=
  if extent ≤ 0 then 0
  else atLeastZero (track.pixels?.getD 0 + track.weight * unitShare tracks extent)

/-- A track has the same size wherever it stands among the others. -/
theorem resolve_eq_map (specs : List (TrackSize ℚ)) (count : Int) :
    resolve specs extent count =
      (paddedTracks specs count.toNat).map (sizeAmong (paddedTracks specs count.toNat) extent) := by
  by_cases hextent : extent ≤ 0
  · rw [resolve, if_pos hextent]
    exact List.map_congr_left fun _ _ => (if_pos hextent).symm
  · rw [resolve, if_neg hextent, shareOut_eq_map]
    exact List.map_congr_left fun _ _ => (if_neg hextent).symm

private theorem share_mono {share larger : ℚ} (hshare : 0 ≤ share) (hlarger : share ≤ larger)
    (weight : ℚ) : atLeastZero (0 + weight * share) ≤ atLeastZero (0 + weight * larger) := by
  simp only [atLeastZero_eq_max, zero_add]
  rcases le_total 0 weight with hweight | hweight
  · exact max_le_max_right 0 (mul_le_mul_of_nonneg_left hlarger hweight)
  · -- A negative weight has no share, whatever there is to share.
    rw [max_eq_right (mul_nonpos_of_nonpos_of_nonneg hweight hshare)]
    exact le_max_right _ _

theorem shareOut_mono {extent larger : ℚ} (hextent : extent ≤ larger) :
    List.Forall₂ (· ≤ ·) (shareOut tracks extent) (shareOut tracks larger) := by
  have hshare := unitShare_nonneg tracks extent
  have hlarger := unitShare_mono tracks hextent
  simp only [shareOut_eq_map, List.forall₂_map_left_iff, List.forall₂_map_right_iff, List.forall₂_same]
  intro track _
  cases track with
  | fixed pixels => simp [TrackSize.weight]
  | flex factor => exact share_mono hshare hlarger factor
  | content => exact share_mono hshare hlarger 1

end Shares

theorem resolve_mono (specs : List (TrackSize ℚ)) (count : Int) {extent larger : ℚ}
    (hextent : extent ≤ larger) :
    List.Forall₂ (· ≤ ·) (resolve specs extent count) (resolve specs larger count) := by
  have hnonneg := resolve_nonneg specs larger count
  have hlength := length_resolve specs larger count
  by_cases hpos : extent ≤ 0
  · -- Every size is zero here, whatever the larger extent gives.
    rw [resolve, if_pos hpos, List.forall₂_map_left_iff]
    refine List.forall₂_iff_get.mpr ⟨?_, fun index _ hindex => hnonneg _ (List.get_mem _ _)⟩
    rw [hlength, length_paddedTracks]
  · have hlarger : ¬ larger ≤ 0 := fun hle => hpos (hextent.trans hle)
    rw [resolve, resolve, if_neg hpos, if_neg hlarger]
    exact shareOut_mono _ hextent

end RegionGrid
