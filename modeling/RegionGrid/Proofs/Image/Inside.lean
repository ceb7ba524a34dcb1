import RegionGrid.Proofs.Image.Painting

/-!
# Regions that are drawn inside their rectangles

The gap is taken off on both sides of a rectangle, and a box that has nothing left is given one row or column
again, after the gap and not in the middle. So a region is drawn inside its rectangle exactly if that is wider
and higher than the gap, with one more row for the outline. Where this holds of all regions, and no two of their
rectangles overlap, each pixel of a rectangle shows its own region alone.
-/

namespace RegionGrid

open Binary64 (StandsFor truncated standsFor_zero)

/-- There is room for the gap, and for two rows after it. -/
def Rect.HasRoom (gap : ℕ) (rect : Rect ℚ) : Prop := gap < rect.width ∧ gap + 1 < rect.height

namespace Picture

theorem pixel_eq_drawn {picture : Picture} {x y : ℤ} {box : PixelBox × Colour} (hbox : box ∈ picture.boxes)
    (hothers : ∀ other ∈ picture.boxes, other = box ∨ painted? picture.outline x y other = none) :
    picture.pixel x y = drawn picture.outline x y picture.background box := by
  rw [drawn_eq]
  cases hcolour : painted? picture.outline x y box with
  | none =>
    apply pixel_eq_background
    intro other hother
    rcases hothers other hother with rfl | hnone
    · exact hcolour
    · exact hnone
  | some colour =>
    apply pixel_eq_of_painted hbox hcolour
    intro other hother
    rcases hothers other hother with rfl | hnone
    · exact .inr hcolour
    · exact .inl hnone

/-- A region with room for its box and its outline paints nothing outside of its rectangle. -/
theorem painted?_eq_none_of_inside {gap : ℕ} {rect : Rect ℚ} {box : PixelBox} {x y : ℤ} (hwhole : rect.IsWhole)
    (hbox : boxOf? truncated (gap : ℚ) rect = some box) (hroom : rect.HasRoom gap)
    (hoff : ¬ rect.contains x y = true) (outline colour : Colour) : painted? outline x y (box, colour) = none := by
  obtain ⟨found, hfound, hcontains, houtlines⟩ :=
    exists_boxOf?_inside_iff gap hwhole (hasArea_of_boxOf?_eq_some hbox)
  obtain rfl : box = found := Option.some_inj.mp (hbox.symm.trans hfound)
  have hheight : (gap : ℚ) < rect.height := by linarith [hroom.2]
  rw [painted?, if_neg fun h => hoff (houtlines.mpr hroom x y h.2),
    if_neg fun h => hoff (hcontains.mpr ⟨hroom.1, hheight⟩ x y h)]

/-- Where a picture shows the regions of a list. -/
structure DrawsInside (gap : ℕ) (rects : List (String × Rect ℚ)) (picture : Picture) : Prop where
  /-- Where the box of a region lies, and where its outline does. -/
  inside_iff : ∀ entry ∈ rects, entry.2.HasArea → ∃ box, boxOf? truncated (gap : ℚ) entry.2 = some box ∧
    (box, Colour.ofName entry.1) ∈ picture.boxes ∧
    ((∀ x y : ℤ, box.contains x y = true → entry.2.contains x y = true) ↔
      gap < entry.2.width ∧ gap < entry.2.height) ∧
    ((∀ x y : ℤ, box.outlines x y = true → entry.2.contains x y = true) ↔
      gap < entry.2.width ∧ gap + 1 < entry.2.height)
  /-- A pixel of a rectangle shows its own region alone, if all regions have the room for it. -/
  own : Apart rects → (∀ entry ∈ rects, entry.2.HasArea → entry.2.HasRoom gap) →
    ∀ entry ∈ rects, ∀ box, boxOf? truncated (gap : ℚ) entry.2 = some box →
      ∀ x y : ℤ, entry.2.contains x y = true →
        picture.pixel x y = drawn picture.outline x y picture.background (box, Colour.ofName entry.1)
  between : (∀ entry ∈ rects, entry.2.HasArea → entry.2.HasRoom gap) →
    ∀ x y : ℤ, (∀ entry ∈ rects, entry.2.HasArea → ¬ entry.2.contains x y = true) →
      picture.pixel x y = picture.background

end Picture

end RegionGrid
