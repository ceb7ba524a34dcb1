import RegionGrid.Proofs.Track.Resolve
import Mathlib.Algebra.BigOperators.Ring.List

/-!
# Conservation of the extent

Where no track asks for less than nothing, no size has to be made zero in place of a negative one: the
fixed tracks have what they ask for, and the others have all of the free space if one of them has a weight.
Main statement: the sizes of an axis are what its fixed tracks ask for and shares in proportion to the
weights, and they sum to the extent if the fixed tracks fit in.
-/

namespace RegionGrid

/-- The track asks for no negative extent and no negative share. -/
def TrackSize.Nonneg : TrackSize ℚ → Prop
  | fixed pixels => 0 ≤ pixels
  | flex factor => 0 ≤ factor
  | content => True

instance : DecidablePred TrackSize.Nonneg
  | .fixed pixels => inferInstanceAs (Decidable (0 ≤ pixels))
  | .flex factor => inferInstanceAs (Decidable (0 ≤ factor))
  | .content => inferInstanceAs (Decidable True)

theorem TrackSize.Nonneg.pixels {track : TrackSize ℚ} (htrack : track.Nonneg) :
    0 ≤ track.pixels?.getD 0 := by
  cases track with
  | fixed pixels => exact htrack
  | flex factor => exact le_refl 0
  | content => exact le_refl 0

theorem TrackSize.Nonneg.weight {track : TrackSize ℚ} (htrack : track.Nonneg) : 0 ≤ track.weight := by
  cases track with
  | fixed pixels => exact le_refl 0
  | flex factor => exact htrack
  | content => exact zero_le_one

section Sums

variable (tracks : List (TrackSize ℚ))

theorem sum_pixels : (tracks.map fun track => track.pixels?.getD 0).sum = fixedSum tracks := by
  induction tracks with
  | nil => rfl
  | cons track tracks ih =>
    rw [List.map_cons, List.sum_cons, ih]
    cases track with
    | fixed pixels => exact List.sum_cons.symm
    | flex factor => exact zero_add _
    | content => exact zero_add _

theorem weightSum_mul_unitShare (extent : ℚ) :
    weightSum tracks * unitShare tracks extent =
      if 0 < weightSum tracks then freeSpace tracks extent else 0 := by
  rw [unitShare]
  split
  · next hweights => exact mul_div_cancel₀ _ hweights.ne'
  · exact mul_zero _

variable {tracks}

/-- No size is made zero in place of a negative one. -/
theorem shareOut_eq_map_of_nonneg (hnonneg : ∀ track ∈ tracks, track.Nonneg) (extent : ℚ) :
    shareOut tracks extent = tracks.map fun track =>
      track.pixels?.getD 0 + track.weight * unitShare tracks extent := by
  rw [shareOut_eq_map]
  apply List.map_congr_left
  intro track htrack
  have hshare := mul_nonneg (hnonneg track htrack).weight (unitShare_nonneg tracks extent)
  rw [atLeastZero_eq_max, max_eq_left (add_nonneg (hnonneg track htrack).pixels hshare)]

theorem sum_shareOut (hnonneg : ∀ track ∈ tracks, track.Nonneg) (extent : ℚ) :
    (shareOut tracks extent).sum =
      fixedSum tracks + if 0 < weightSum tracks then freeSpace tracks extent else 0 := by
  rw [shareOut_eq_map_of_nonneg hnonneg, List.sum_map_add, sum_pixels, List.sum_map_mul_right,
    ← weightSum, weightSum_mul_unitShare]

end Sums

/--
What the tracks of an axis ask for fits into its extent, and there are tracks that share what the fixed
ones leave.
-/
structure Fits (specs : List (TrackSize ℚ)) (extent : ℚ) (count : Nat) : Prop where
  nonneg : ∀ track ∈ specs.take count, track.Nonneg
  shared : 0 < weightSum (paddedTracks specs count)
  fixed_le : fixedSum (paddedTracks specs count) ≤ extent

instance (specs : List (TrackSize ℚ)) (extent : ℚ) (count : Nat) : Decidable (Fits specs extent count) :=
  decidable_of_iff
    ((∀ track ∈ specs.take count, track.Nonneg) ∧ 0 < weightSum (paddedTracks specs count) ∧
      fixedSum (paddedTracks specs count) ≤ extent)
    ⟨fun ⟨hnonneg, hshared, hle⟩ => ⟨hnonneg, hshared, hle⟩, fun hfits =>
      ⟨hfits.nonneg, hfits.shared, hfits.fixed_le⟩⟩

theorem Fits.mono {specs : List (TrackSize ℚ)} {extent larger : ℚ} {count : Nat}
    (hfits : Fits specs extent count) (hextent : extent ≤ larger) : Fits specs larger count :=
  ⟨hfits.nonneg, hfits.shared, hfits.fixed_le.trans hextent⟩

theorem nonneg_paddedTracks {specs : List (TrackSize ℚ)} {count : Nat}
    (hnonneg : ∀ track ∈ specs.take count, track.Nonneg) :
    ∀ track ∈ paddedTracks specs count, track.Nonneg := by
  intro track htrack
  rcases List.mem_append.mp htrack with htrack | htrack
  · exact hnonneg track htrack
  · rw [List.eq_of_mem_replicate htrack]
    exact trivial

theorem Fits.sum_resolve {specs : List (TrackSize ℚ)} {extent : ℚ} {count : Nat}
    (hfits : Fits specs extent count) (hextent : 0 < extent) :
    (resolve specs extent count).sum = extent := by
  rw [resolve, if_neg (not_le.mpr hextent), Int.toNat_natCast,
    sum_shareOut (nonneg_paddedTracks hfits.nonneg), if_pos hfits.shared, freeSpace_eq,
    max_eq_left (sub_nonneg.mpr hfits.fixed_le), add_sub_cancel]

/-! ### Sharing in proportion -/

/--
The sizes share an extent out among the tracks: fixed tracks have what they ask for, the others share in
proportion to their weights, and together they fill the extent unless nothing shares what is free or the
fixed tracks ask for more than there is.
-/
structure SharesOut (tracks : List (TrackSize ℚ)) (extent : ℚ) (sizes : List ℚ) : Prop where
  length_eq : sizes.length = tracks.length
  fixed : ∀ {index : ℕ} {pixels : ℚ}, tracks[index]? = some (.fixed pixels) →
    sizes[index]? = some pixels
  proportional : ∀ {first second : ℕ} {a b : TrackSize ℚ} {x y : ℚ},
    tracks[first]? = some a → tracks[second]? = some b → a.pixels? = none → b.pixels? = none →
    sizes[first]? = some x → sizes[second]? = some y → x * b.weight = y * a.weight
  sum_eq : sizes.sum =
    if 0 < weightSum tracks then max extent (fixedSum tracks) else fixedSum tracks

theorem sharesOut_shareOut {tracks : List (TrackSize ℚ)} (hnonneg : ∀ track ∈ tracks, track.Nonneg)
    (extent : ℚ) : SharesOut tracks extent (shareOut tracks extent) := by
  have hsizes := shareOut_eq_map_of_nonneg hnonneg extent
  refine ⟨?_, ?_, ?_, ?_⟩
  · rw [hsizes, List.length_map]
  · intro index pixels htrack
    rw [hsizes, List.getElem?_map, htrack, Option.map_some, TrackSize.pixels?, TrackSize.weight,
      Option.getD_some, zero_mul, add_zero]
  · intro first second a b x y ha hb hfirst hsecond hx hy
    rw [hsizes, List.getElem?_map, ha, Option.map_some, hfirst, Option.some_inj, Option.getD_none,
      zero_add] at hx
    rw [hsizes, List.getElem?_map, hb, Option.map_some, hsecond, Option.some_inj, Option.getD_none,
      zero_add] at hy
    rw [← hx, ← hy, mul_right_comm, mul_comm a.weight, mul_right_comm]
  · rw [sum_shareOut hnonneg, freeSpace_eq]
    split
    · rw [← max_add_add_left, add_sub_cancel, add_zero]
    · exact add_zero _

theorem SharesOut.sum_le {tracks : List (TrackSize ℚ)} {extent : ℚ} {sizes : List ℚ}
    (hshares : SharesOut tracks extent sizes) : sizes.sum ≤ max extent (fixedSum tracks) := by
  rw [hshares.sum_eq]
  split
  · exact le_refl _
  · exact le_max_right _ _

theorem resolve_sharesOut (specs : List (TrackSize ℚ)) (count : ℕ) {extent : ℚ} (hextent : 0 < extent)
    (hnonneg : ∀ track ∈ specs.take count, track.Nonneg) :
    (resolve specs extent count).length = count ∧
      SharesOut (paddedTracks specs count) extent (resolve specs extent count) ∧
      (resolve specs extent count).sum ≤ max extent (fixedSum (paddedTracks specs count)) := by
  have hresolve : resolve specs extent count = shareOut (paddedTracks specs count) extent := by
    rw [resolve, if_neg (not_le.mpr hextent), Int.toNat_natCast]
  have hshares := sharesOut_shareOut (nonneg_paddedTracks hnonneg) extent
  rw [← hresolve] at hshares
  exact ⟨length_resolve specs extent count, hshares, hshares.sum_le⟩

/-- A fixed track, a track without a weight, a track of two shares and two that are missing. -/
theorem resolve_sharesOut_five :
    let specs : List (TrackSize ℚ) := [.fixed 30, .flex 0, .flex 2]
    (0 : ℚ) < 100 ∧ (∀ track ∈ specs.take 5, track.Nonneg) ∧
      resolve specs 100 5 = [30, 0, 35, 35 / 2, 35 / 2] ∧
      SharesOut (paddedTracks specs 5) 100 (resolve specs 100 5) := by
  have hextent : (0 : ℚ) < 100 := by decide +kernel
  have hnonneg : ∀ track ∈ List.take 5 [.fixed 30, .flex 0, .flex 2], TrackSize.Nonneg track := by
    decide +kernel
  exact ⟨hextent, hnonneg, by decide +kernel, (resolve_sharesOut _ 5 hextent hnonneg).2.1⟩

end RegionGrid
