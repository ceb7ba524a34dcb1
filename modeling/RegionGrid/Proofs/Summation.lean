import RegionGrid.Summation
import Mathlib.Algebra.BigOperators.Group.List.Basic

/-!
# Pairwise sums are sums

Where addition is exact, the order in which a list is added up does not matter. Where it is not, what a sum
of two numbers tells about both of them still goes down to every number of the list.
-/

namespace RegionGrid

variable {α : Type}

section Exact

variable [AddCommMonoid α]

namespace Lanes

theorem total_add (x y : Lanes α) : (x.add y).total = x.total + y.total := by
  simp only [add, total]
  ac_rfl

theorem sum_eq (x : Lanes α) (xs : List α) : x.sum xs = x.total + xs.sum := by
  fun_induction x.sum xs with
  | case1 x a b c d e f g h rest ih =>
    rw [ih, total_add]
    simp only [total, List.sum_cons]
    ac_rfl
  | case2 x rest =>
    have hfold : rest.foldl (· + ·) (x.total + 0) = x.total + rest.foldl (· + ·) 0 := List.foldl_assoc
    rwa [add_zero, ← List.sum_eq_foldl] at hfold

end Lanes

theorem blockSum_eq_sum (xs : List α) : blockSum xs = xs.sum := by
  fun_cases blockSum xs with
  | case1 a b c d e f g h rest =>
    rw [Lanes.sum_eq]
    simp only [Lanes.total, List.sum_cons]
    ac_rfl
  | case2 xs => exact List.sum_eq_foldl.symm

theorem pairwiseSum_eq_sum (xs : List α) : pairwiseSum xs = xs.sum := by
  fun_induction pairwiseSum xs with
  | case1 xs hshort => exact blockSum_eq_sum xs
  | case2 xs hlong half ihTake ihDrop =>
    rw [ihTake, ihDrop, ← List.sum_append, List.take_append_drop]

end Exact

/-! ### What a sum tells about its terms -/

section Terms

variable [Add α] {P : α → Prop}

theorem forall_of_foldl_add (hterms : ∀ x y, P (x + y) → P x ∧ P y) {xs : List α} {start : α}
    (hsum : P (xs.foldl (· + ·) start)) : P start ∧ ∀ x ∈ xs, P x := by
  induction xs generalizing start with
  | nil => exact ⟨hsum, fun x hx => absurd hx List.not_mem_nil⟩
  | cons x xs ih =>
    obtain ⟨hfirst, hrest⟩ := ih hsum
    obtain ⟨hstart, hx⟩ := hterms _ _ hfirst
    exact ⟨hstart, List.forall_mem_cons.mpr ⟨hx, hrest⟩⟩

namespace Lanes

def toList (x : Lanes α) : List α := [x.a, x.b, x.c, x.d, x.e, x.f, x.g, x.h]

theorem forall_of_total (hterms : ∀ x y, P (x + y) → P x ∧ P y) {x : Lanes α} (hsum : P x.total) :
    ∀ y ∈ x.toList, P y := by
  obtain ⟨hleft, hright⟩ := hterms _ _ hsum
  obtain ⟨hab, hcd⟩ := hterms _ _ hleft
  obtain ⟨hef, hgh⟩ := hterms _ _ hright
  simp only [toList, List.forall_mem_cons]
  simp [hterms _ _ hab, hterms _ _ hcd, hterms _ _ hef, hterms _ _ hgh]

theorem forall_of_sum (hterms : ∀ x y, P (x + y) → P x ∧ P y) {x : Lanes α} {xs : List α}
    (hsum : P (x.sum xs)) : ∀ y ∈ x.toList ++ xs, P y := by
  fun_induction x.sum xs with
  | case1 x a b c d e f g h rest ih =>
    have hall := ih hsum
    simp only [toList, add, List.forall_mem_append, List.forall_mem_cons] at hall ⊢
    grind
  | case2 x rest =>
    obtain ⟨htotal, hrest⟩ := forall_of_foldl_add hterms hsum
    exact List.forall_mem_append.mpr ⟨forall_of_total hterms htotal, hrest⟩

end Lanes

variable [Zero α]

theorem forall_of_blockSum (hterms : ∀ x y, P (x + y) → P x ∧ P y) {xs : List α} (hsum : P (blockSum xs)) :
    ∀ x ∈ xs, P x := by
  revert hsum
  fun_cases blockSum xs with
  | case1 a b c d e f g h rest => exact Lanes.forall_of_sum hterms
  | case2 xs => exact fun hsum => (forall_of_foldl_add hterms hsum).2

theorem forall_of_pairwiseSum (hterms : ∀ x y, P (x + y) → P x ∧ P y) {xs : List α}
    (hsum : P (pairwiseSum xs)) : ∀ x ∈ xs, P x := by
  fun_induction pairwiseSum xs with
  | case1 xs hshort => exact forall_of_blockSum hterms hsum
  | case2 xs hlong half ihTake ihDrop =>
    obtain ⟨htake, hdrop⟩ := hterms _ _ hsum
    rw [← List.take_append_drop half xs, List.forall_mem_append]
    exact ⟨ihTake htake, ihDrop hdrop⟩

end Terms

end RegionGrid
