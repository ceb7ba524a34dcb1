import RegionGrid.Proofs.Track.Resolve
import Mathlib.Algebra.BigOperators.Ring.List
import Mathlib.Tactic.FieldSimp

/-!
# Scaling

An axis can be measured in another unit, and its weights only matter relative to each other. Main statement: when
the extent and what the fixed tracks ask for are multiplied by a positive number, so are the sizes, and when the
factors of all shares are, the sizes stay. The second law is about tracks none of which is as large as its
content, because the share of such a track does not change with the factors of the others.
-/

namespace RegionGrid

/-- The track size with its pixels multiplied by one number and its factor by another. -/
def TrackSize.scale (k l : ℚ) : TrackSize ℚ → TrackSize ℚ
  | fixed pixels => fixed (k * pixels)
  | flex factor => flex (l * factor)
  | content => content

section Scale

variable (k l : ℚ)

theorem TrackSize.pixels?_scale (track : TrackSize ℚ) : (track.scale k l).pixels? = track.pixels?.map (k * ·) := by
  cases track <;> rfl

theorem TrackSize.weight_scale {track : TrackSize ℚ} (hcontent : l = 1 ∨ track ≠ content) :
    (track.scale k l).weight = l * track.weight := by
  cases track with
  | fixed pixels => exact (mul_zero l).symm
  | flex factor => rfl
  | content =>
    rcases hcontent with rfl | hne
    · exact (mul_one 1).symm
    · exact absurd rfl hne

theorem fixedSum_scale (tracks : List (TrackSize ℚ)) :
    fixedSum (tracks.map (TrackSize.scale k l)) = k * fixedSum tracks := by
  have hpixels : (tracks.map (TrackSize.scale k l)).filterMap TrackSize.pixels? =
      (tracks.filterMap TrackSize.pixels?).map (k * ·) := by
    simp only [List.filterMap_map, Function.comp_def, TrackSize.pixels?_scale, List.map_filterMap]
  rw [fixedSum, hpixels, List.sum_map_mul_left, List.map_id_fun', id, fixedSum]

theorem weightSum_scale {tracks : List (TrackSize ℚ)} (hcontent : l = 1 ∨ .content ∉ tracks) :
    weightSum (tracks.map (TrackSize.scale k l)) = l * weightSum tracks := by
  rw [weightSum, List.map_map, weightSum, ← List.sum_map_mul_left]
  congr 1
  apply List.map_congr_left
  intro track htrack
  exact TrackSize.weight_scale k l (hcontent.imp_right fun hnone heq => hnone (heq ▸ htrack))

theorem paddedTracks_map_scale (specs : List (TrackSize ℚ)) (count : Nat) :
    paddedTracks (specs.map (TrackSize.scale k l)) count = (paddedTracks specs count).map (TrackSize.scale k l) := by
  simp only [paddedTracks, List.map_append, List.map_take, List.map_replicate, List.length_map, TrackSize.scale]

variable {k l} (hk : 0 < k) (hl : 0 < l)

include hk

theorem atLeastZero_mul (x : ℚ) : atLeastZero (k * x) = k * atLeastZero x := by
  rw [atLeastZero_eq_max, atLeastZero_eq_max, mul_max_of_nonneg _ _ hk.le, mul_zero]

theorem freeSpace_scale (tracks : List (TrackSize ℚ)) (extent : ℚ) :
    freeSpace (tracks.map (TrackSize.scale k l)) (k * extent) = k * freeSpace tracks extent := by
  rw [freeSpace_eq, freeSpace_eq, fixedSum_scale, ← mul_sub, mul_max_of_nonneg _ _ hk.le, mul_zero]

include hl

/-- A unit of weight gets as much more as there is more to share, and as much less as there is more weight. -/
theorem unitShare_scale {tracks : List (TrackSize ℚ)} (hcontent : l = 1 ∨ .content ∉ tracks) (extent : ℚ) :
    l * unitShare (tracks.map (TrackSize.scale k l)) (k * extent) = k * unitShare tracks extent := by
  rw [unitShare, unitShare, weightSum_scale k l hcontent, freeSpace_scale hk]
  by_cases hweights : 0 < weightSum tracks
  · rw [if_pos (mul_pos hl hweights), if_pos hweights]
    field_simp
  · rw [if_neg fun h => hweights (pos_of_mul_pos_right h hl.le), if_neg hweights, mul_zero, mul_zero]

theorem sizeAmong_scale {tracks : List (TrackSize ℚ)} (hcontent : l = 1 ∨ .content ∉ tracks) (extent : ℚ)
    {track : TrackSize ℚ} (htrack : track ∈ tracks) :
    sizeAmong (tracks.map (TrackSize.scale k l)) (k * extent) (track.scale k l) =
      k * sizeAmong tracks extent track := by
  have hweight := TrackSize.weight_scale k l (hcontent.imp_right fun hnone heq => hnone (heq ▸ htrack))
  have hpixels : (track.scale k l).pixels?.getD 0 = k * track.pixels?.getD 0 := by
    rw [TrackSize.pixels?_scale]
    cases track.pixels? with
    | none => exact (mul_zero k).symm
    | some pixels => rfl
  have hextent : k * extent ≤ 0 ↔ extent ≤ 0 := by
    rw [← not_lt, ← not_lt, mul_pos_iff_of_pos_left hk]
  have hsize : k * track.pixels?.getD 0 + l * track.weight * unitShare (tracks.map (TrackSize.scale k l))
      (k * extent) = k * (track.pixels?.getD 0 + track.weight * unitShare tracks extent) := by
    rw [mul_comm l, mul_assoc, unitShare_scale hk hl hcontent, mul_left_comm, ← mul_add]
  rw [sizeAmong, sizeAmong, hpixels, hweight, hsize, atLeastZero_mul hk, mul_ite, mul_zero]
  simp only [hextent]

/-- Scaling the axis scales the sizes; scaling the weights alone does not matter. -/
theorem resolve_scale {specs : List (TrackSize ℚ)} {count : Int}
    (hcontent : l = 1 ∨ .content ∉ paddedTracks specs count.toNat) (extent : ℚ) :
    resolve (specs.map (TrackSize.scale k l)) (k * extent) count = (resolve specs extent count).map (k * ·) := by
  rw [resolve_eq_map, resolve_eq_map, paddedTracks_map_scale, List.map_map, List.map_map]
  exact List.map_congr_left fun track htrack => sizeAmong_scale hk hl hcontent extent htrack

end Scale

/--
The sizes are multiplied by what the extent and the pixels are multiplied by. They stay when the factors are
multiplied, if no track of the axis is as large as its content.
-/
theorem resolve_scaling_laws (specs : List (TrackSize ℚ)) (extent : ℚ) (count : Int) {k : ℚ} (hk : 0 < k) :
    resolve (specs.map (.scale k 1)) (k * extent) count = (resolve specs extent count).map (k * ·) ∧
      (.content ∉ paddedTracks specs count.toNat →
        resolve (specs.map (.scale 1 k)) extent count = resolve specs extent count) := by
  refine ⟨resolve_scale hk one_pos (.inl rfl) extent, fun hcontent => ?_⟩
  have hsizes := resolve_scale one_pos hk (.inr hcontent) extent
  simpa only [one_mul, List.map_id_fun', id] using hsizes

/-- Negative pixels leave more to share, and a negative factor less weight to share it. -/
theorem resolve_scaling_laws_negative :
    let specs : List (TrackSize ℚ) := [.fixed 30, .flex 2, .flex (-1 / 2), .fixed (-10)]
    (0 : ℚ) < 3 / 2 ∧ .content ∉ paddedTracks specs 4 ∧ resolve specs 100 4 = [30, 320 / 3, 0, 0] ∧
      resolve (specs.map (.scale (3 / 2) 1)) (3 / 2 * 100) 4 = [45, 160, 0, 0] ∧
        resolve (specs.map (.scale 1 (3 / 2))) 100 4 = [30, 320 / 3, 0, 0] := by
  intro specs
  have hk : (0 : ℚ) < 3 / 2 := by decide +kernel
  have hcontent : .content ∉ paddedTracks specs 4 := by simp [specs, paddedTracks]
  have hsizes : resolve specs 100 4 = [30, 320 / 3, 0, 0] := by decide +kernel
  obtain ⟨hunit, hfactors⟩ := resolve_scaling_laws specs 100 4 hk
  refine ⟨hk, hcontent, hsizes, ?_, (hfactors hcontent).trans hsizes⟩
  rw [hunit, hsizes]
  decide +kernel

/-- A track that is as large as its content keeps its one share. -/
example : resolve ([.flex 1, .content].map (.scale 1 3)) (80 : ℚ) 2 = [60, 20] := by decide +kernel

end RegionGrid
