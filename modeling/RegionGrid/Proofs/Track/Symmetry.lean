import RegionGrid.Proofs.Track.Resolve
import Mathlib.Data.List.FinRange

/-!
# Symmetry of the tracks

An axis can be written out: with as many track sizes as it has tracks, and with one share in place of every
track that is missing or as large as its content. Over any numbers it has the same sizes then, because the same
numbers are added up. Over exact numbers a sum does not depend on the order of its terms, either. Main
statement: the tracks of an axis can be written out, and putting them in another order puts their sizes in that
order.
-/

namespace RegionGrid

section Explicit

variable {α : Type} [One α]

/-- The track size with one share in place of the content. -/
def TrackSize.asShare : TrackSize α → TrackSize α
  | content => flex 1
  | track => track

/-- The first `count` track sizes, with one share for those that are missing and for content. -/
def explicitTracks (specs : List (TrackSize α)) (count : Nat) : List (TrackSize α) :=
  (specs.take count ++ List.replicate (count - specs.length) (TrackSize.flex 1)).map TrackSize.asShare

theorem explicitTracks_eq_map (specs : List (TrackSize α)) (count : Nat) :
    explicitTracks specs count = (paddedTracks specs count).map TrackSize.asShare := by
  simp only [explicitTracks, paddedTracks, List.map_append, List.map_replicate, TrackSize.asShare]

theorem length_explicitTracks (specs : List (TrackSize α)) (count : Nat) :
    (explicitTracks specs count).length = count := by
  rw [explicitTracks_eq_map, List.length_map, length_paddedTracks]

theorem TrackSize.pixels?_asShare (track : TrackSize α) : track.asShare.pixels? = track.pixels? := by
  cases track <;> rfl

theorem TrackSize.weight_asShare [Zero α] (track : TrackSize α) : track.asShare.weight = track.weight := by
  cases track <;> rfl

variable [Zero α] [Add α] [Sub α] [Mul α] [Div α] [LT α] [DecidableLT α]

theorem shareOut_map_asShare (tracks : List (TrackSize α)) (extent : α) :
    shareOut (tracks.map TrackSize.asShare) extent = shareOut tracks extent := by
  have hfree : freeSpace (tracks.map TrackSize.asShare) extent = freeSpace tracks extent := by
    simp only [freeSpace, List.filterMap_map, Function.comp_def, TrackSize.pixels?_asShare]
  simp only [shareOut, hfree, List.map_map, Function.comp_def, TrackSize.weight_asShare]
  apply List.map_congr_left
  intro track _
  cases track <;> rfl

theorem resolve_explicitTracks [LE α] [DecidableLE α] (specs : List (TrackSize α)) (extent : α) (count : Int) :
    resolve (explicitTracks specs count.toNat) extent count = resolve specs extent count := by
  rw [resolve, resolve, paddedTracks_of_length (length_explicitTracks specs count.toNat), explicitTracks_eq_map,
    shareOut_map_asShare, List.map_map]
  rfl

end Explicit

/-! ### Tracks in another order -/

section Order

variable {α β : Type} {count : Nat} (order : Equiv.Perm (Fin count))

/-- As many items in another order: at each index stands the item from the index that it is sent to. -/
def reordered (items : List α) : List α := (List.finRange count).filterMap fun index => items[(order index : Nat)]?

theorem map_reordered (f : α → β) (items : List α) :
    (reordered order items).map f = reordered order (items.map f) := by
  simp only [reordered, List.map_filterMap, List.getElem?_map]

theorem reordered_ofFn (items : Fin count → α) :
    reordered order (List.ofFn items) = List.ofFn (items ∘ order) := by
  have hitem (index : Fin count) : (List.ofFn items)[(order index : Nat)]? = some (items (order index)) := by
    simp
  simp only [reordered, hitem]
  rw [List.ofFn_eq_map]
  exact congrFun List.filterMap_eq_map' _

theorem reordered_perm {items : List α} (hlength : items.length = count) :
    (reordered order items).Perm items := by
  subst hlength
  have hitems : reordered order items = List.ofFn (items.get ∘ order) := by
    rw [← reordered_ofFn, List.ofFn_get]
  have hperm := order.ofFn_comp_perm items.get
  rwa [List.ofFn_get, ← hitems] at hperm

end Order

theorem unitShare_perm {tracks other : List (TrackSize ℚ)} (hperm : tracks.Perm other) (extent : ℚ) :
    unitShare tracks extent = unitShare other extent := by
  have hweights : weightSum tracks = weightSum other := (hperm.map _).sum_eq
  have hfixed : fixedSum tracks = fixedSum other := (hperm.filterMap _).sum_eq
  simp only [unitShare, freeSpace_eq, hweights, hfixed]

theorem sizeAmong_perm {tracks other : List (TrackSize ℚ)} (hperm : tracks.Perm other) (extent : ℚ) :
    sizeAmong tracks extent = sizeAmong other extent := by
  funext track
  rw [sizeAmong, sizeAmong, unitShare_perm hperm]

theorem resolve_reordered {tracks : List (TrackSize ℚ)} {count : Int} (hlength : tracks.length = count.toNat)
    (extent : ℚ) (order : Equiv.Perm (Fin count.toNat)) :
    resolve (reordered order tracks) extent count = reordered order (resolve tracks extent count) := by
  have hperm := reordered_perm order hlength
  rw [resolve_eq_map, resolve_eq_map, paddedTracks_of_length (hperm.length_eq.trans hlength),
    paddedTracks_of_length hlength, sizeAmong_perm hperm, map_reordered]

/--
An axis has the sizes of its tracks written out. Over exact numbers tracks in another order have their sizes in
that order.
-/
theorem resolve_symmetric :
    (∀ {α : Type} [Zero α] [One α] [Add α] [Sub α] [Mul α] [Div α] [LT α] [DecidableLT α] [LE α] [DecidableLE α]
        (specs : List (TrackSize α)) (extent : α) (count : Int),
      resolve (explicitTracks specs count.toNat) extent count = resolve specs extent count) ∧
    ∀ (specs : List (TrackSize ℚ)) (extent : ℚ) (count : Int) (order : Equiv.Perm (Fin count.toNat)),
      resolve (reordered order (explicitTracks specs count.toNat)) extent count =
        reordered order (resolve specs extent count) := by
  refine ⟨resolve_explicitTracks, fun specs extent count order => ?_⟩
  rw [resolve_reordered (length_explicitTracks specs count.toNat), resolve_explicitTracks]

/-- The first two tracks change places, and so do their sizes. -/
example :
    resolve [.flex 2, .fixed 30] (90 : ℚ) 3 = [40, 30, 20] ∧
      resolve (reordered (Equiv.swap (0 : Fin 3) 1) (explicitTracks [.flex 2, .fixed 30] 3)) (90 : ℚ) 3 =
        [30, 40, 20] := by
  decide +kernel

end RegionGrid
