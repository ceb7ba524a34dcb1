import RegionGrid.Proofs.Image.Doubles

/-!
# What is painted on a pixel

The colour of a pixel is that of the last box drawn on it. If all boxes that colour the pixel give it the same
colour, then it has that colour, whatever their order; and it keeps the background if no box colours it.
-/

namespace RegionGrid

open Binary64 (truncated)

namespace Picture

/-- The colour that drawing a box gives a pixel, if it gives it one. -/
def painted? (outline : Colour) (x y : ℤ) (box : PixelBox × Colour) : Option Colour :=
  if outline ≠ box.2 ∧ box.1.outlines x y = true then some outline
  else if box.1.contains x y = true then some box.2
  else none

theorem drawn_eq (outline : Colour) (x y : ℤ) (under : Colour) (box : PixelBox × Colour) :
    drawn outline x y under box = (painted? outline x y box).getD under := by
  rw [drawn, painted?]
  split
  · rfl
  · split
    · rfl
    · rfl

theorem foldl_drawn_eq {outline colour : Colour} {x y : ℤ} {boxes : List (PixelBox × Colour)} (under : Colour)
    (hpainted : ∀ box ∈ boxes, painted? outline x y box = none ∨ painted? outline x y box = some colour)
    (hcolour : (∃ box ∈ boxes, painted? outline x y box = some colour) ∨ under = colour) :
    boxes.foldl (drawn outline x y) under = colour := by
  induction boxes generalizing under with
  | nil =>
    rcases hcolour with ⟨box, hbox, -⟩ | hunder
    · cases hbox
    · exact hunder
  | cons box boxes ih =>
    rw [List.foldl_cons]
    apply ih
    · intro other hother
      exact hpainted other (List.mem_cons_of_mem _ hother)
    · rw [drawn_eq]
      rcases hpainted box List.mem_cons_self with hnone | hsome
      · rw [hnone, Option.getD_none]
        rcases hcolour with ⟨other, hother, hsome⟩ | hunder
        · rcases List.mem_cons.mp hother with rfl | hother
          · rw [hnone] at hsome
            cases hsome
          · exact .inl ⟨other, hother, hsome⟩
        · exact .inr hunder
      · right
        rw [hsome, Option.getD_some]

section

variable {picture : Picture} {x y : ℤ}

theorem pixel_eq_of_painted {colour : Colour} {box : PixelBox × Colour} (hbox : box ∈ picture.boxes)
    (hcolour : painted? picture.outline x y box = some colour)
    (hothers : ∀ other ∈ picture.boxes,
      painted? picture.outline x y other = none ∨ painted? picture.outline x y other = some colour) :
    picture.pixel x y = colour :=
  foldl_drawn_eq _ hothers (.inl ⟨box, hbox, hcolour⟩)

theorem pixel_eq_background (hboxes : ∀ box ∈ picture.boxes, painted? picture.outline x y box = none) :
    picture.pixel x y = picture.background :=
  foldl_drawn_eq _ (fun box hbox => .inl (hboxes box hbox)) (.inr rfl)

end

/-! ### Pictures of regions -/

theorem nonneg_of_sizeError?_eq_none {width height : ℤ} (hsize : sizeError? width height = none) :
    0 ≤ width ∧ 0 ≤ height := by
  by_contra hneg
  rw [sizeError?, if_pos (by omega)] at hsize
  cases hsize

theorem ofRects_eq_ok {α : Type} [Zero α] [One α] [Add α] [Sub α] [LT α] [LE α] [DecidableLT α] [DecidableLE α]
    {whole : α → ℤ} {style : DrawingStyle α} {width height : ℤ} (hsize : sizeError? width height = none)
    (rects : List (String × Rect α)) :
    ∃ picture, ofRects whole style width height rects = .ok picture ∧ (picture.width : ℤ) = width ∧
      (picture.height : ℤ) = height ∧ picture.background = style.background ∧ picture.outline = style.outline ∧
      ∀ box, box ∈ picture.boxes ↔
        ∃ entry ∈ rects, boxOf? whole style.gap entry.2 = some box.1 ∧ Colour.ofName entry.1 = box.2 := by
  obtain ⟨hwidth, hheight⟩ := nonneg_of_sizeError?_eq_none hsize
  simp only [ofRects, hsize]
  refine ⟨_, rfl, Int.toNat_of_nonneg hwidth, Int.toNat_of_nonneg hheight, rfl, rfl, ?_⟩
  intro box
  simp only [List.mem_filterMap, Option.map_eq_some_iff, Prod.ext_iff]
  constructor
  · rintro ⟨entry, hentry, found, hbox, rfl, hcolour⟩
    exact ⟨entry, hentry, hbox, hcolour⟩
  · rintro ⟨entry, hentry, hbox, hcolour⟩
    exact ⟨entry, hentry, box.1, hbox, rfl, hcolour⟩

end Picture

/-- The rectangles have no point in common, should both be drawn. -/
def Rect.ApartFrom (a b : Rect ℚ) : Prop :=
  a.HasArea → b.HasArea → ∀ x y : ℚ, ¬ (a.contains x y = true ∧ b.contains x y = true)

/-- No two of the rectangles that are drawn have a point in common. -/
def Apart (rects : List (String × Rect ℚ)) : Prop := rects.Pairwise fun a b => a.2.ApartFrom b.2

/-- Two rectangles side by side. -/
theorem apart_pair {a b : String × Rect ℚ} (hbeside : a.2.right ≤ b.2.left) : Apart [a, b] := by
  apply List.pairwise_pair.mpr
  intro _ _ x y hboth
  rw [Rect.contains, Rect.contains, decide_eq_true_iff, decide_eq_true_iff] at hboth
  linarith [hboth.1.2.1, hboth.2.1]

theorem Apart.eq_of_contains {rects : List (String × Rect ℚ)} (hapart : Apart rects) {a b : String × Rect ℚ}
    (ha : a ∈ rects) (hb : b ∈ rects) (haArea : a.2.HasArea) (hbArea : b.2.HasArea) {x y : ℚ}
    (hax : a.2.contains x y = true) (hbx : b.2.contains x y = true) : a = b := by
  have hsymm : Std.Symm fun a b : String × Rect ℚ => a.2.ApartFrom b.2 :=
    ⟨fun a b h hb ha x y hxy => h ha hb x y hxy.symm⟩
  by_contra hne
  exact hapart.forall ha hb hne haArea hbArea x y ⟨hax, hbx⟩

end RegionGrid
