import RegionGrid.Proofs.Image.Painting

/-!
# Every pixel of a picture

Regions that keep apart and are wide and high enough for the gap on both sides show, each of them, their box with
its border. A pixel that is in no box shows the background, with one exception: the sides of an outline are drawn
from the row after the first one, so that a box of a single row has two more pixels, below its ends. These lie in
the gap or, where there is none, on the border of a box that starts there. So no box hides another one, and the
picture does not depend on the order of the regions.
-/

namespace RegionGrid

open Binary64 (StandsFor truncated standsFor_zero Representable representable_mul_zpow)

namespace PixelBox

/-- The pixel is strictly inside the box. -/
def Surrounds (box : PixelBox) (x y : ℤ) : Prop := box.left < x ∧ x < box.right ∧ box.top < y ∧ y < box.bottom

/-- The box is a single row, and the pixel is below one of its ends. -/
def EndsAbove (box : PixelBox) (x y : ℤ) : Prop :=
  box.top = box.bottom ∧ y = box.top + 1 ∧ (x = box.left ∨ x = box.right)

theorem Surrounds.contains {box : PixelBox} {x y : ℤ} (hinside : box.Surrounds x y) : box.contains x y = true := by
  obtain ⟨hleft, hright, htop, hbottom⟩ := hinside
  rw [contains_iff]
  omega

instance (box : PixelBox) (x y : ℤ) : Decidable (box.Surrounds x y) := by
  unfold Surrounds
  infer_instance

instance (box : PixelBox) (x y : ℤ) : Decidable (box.EndsAbove x y) := by
  unfold EndsAbove
  infer_instance

end PixelBox

namespace Picture

section

variable {outline colour : Colour} {box : PixelBox} {x y : ℤ}

theorem painted?_of_surrounds (hinside : box.Surrounds x y) :
    painted? outline x y (box, colour) = some colour := by
  have houtline : ¬ box.outlines x y = true := by
    obtain ⟨hleft, hright, htop, hbottom⟩ := hinside
    rw [PixelBox.outlines_iff]
    omega
  rw [painted?, if_neg fun h => houtline h.2, if_pos hinside.contains]

theorem painted?_of_border (hcontains : box.contains x y = true) (hborder : ¬ box.Surrounds x y) :
    painted? outline x y (box, colour) = some outline := by
  have houtline : box.outlines x y = true := by
    rw [PixelBox.contains_iff] at hcontains
    rw [PixelBox.Surrounds] at hborder
    rw [PixelBox.outlines_iff]
    omega
  rw [painted?]
  by_cases hcolour : outline = colour
  · rw [if_neg fun h => h.1 hcolour, if_pos hcontains, hcolour]
  · rw [if_pos ⟨hcolour, houtline⟩]

theorem painted?_of_endsAbove (hends : box.EndsAbove x y) (hcolour : outline ≠ colour) :
    painted? outline x y (box, colour) = some outline := by
  have houtline : box.outlines x y = true := by
    rw [PixelBox.EndsAbove] at hends
    rw [PixelBox.outlines_iff]
    omega
  rw [painted?, if_pos ⟨hcolour, houtline⟩]

theorem painted?_eq_none (hcolumns : box.left ≤ box.right) (hrows : box.top ≤ box.bottom)
    (hoff : ¬ box.contains x y = true) (hends : box.EndsAbove x y → outline = colour) :
    painted? outline x y (box, colour) = none := by
  have houtline : ¬ (outline ≠ colour ∧ box.outlines x y = true) := by
    intro h
    apply h.1
    apply hends
    have houtline := h.2
    rw [PixelBox.contains_iff] at hoff
    rw [PixelBox.outlines_iff] at houtline
    rw [PixelBox.EndsAbove]
    omega
  rw [painted?, if_neg houtline, if_neg hoff]

/-- What a box gives a pixel that is not strictly inside of it is the outline. -/
theorem painted?_of_not_surrounds (hcolumns : box.left ≤ box.right) (hrows : box.top ≤ box.bottom)
    (hinside : ¬ box.Surrounds x y) :
    painted? outline x y (box, colour) = none ∨ painted? outline x y (box, colour) = some outline := by
  by_cases hcontains : box.contains x y = true
  · exact .inr (painted?_of_border hcontains hinside)
  · by_cases hends : box.EndsAbove x y ∧ outline ≠ colour
    · exact .inr (painted?_of_endsAbove hends.1 hends.2)
    · left
      apply painted?_eq_none hcolumns hrows hcontains
      intro habove
      by_contra hcolour
      exact hends ⟨habove, hcolour⟩

end

end Picture

/-! ### Regions with room for the gap -/

/-- The regions start between pixels, have room for the gap on both sides and a pixel between, and keep apart. -/
structure Separate (gap : ℕ) (rects : List (String × Rect ℚ)) : Prop where
  whole : ∀ entry ∈ rects, entry.2.HasArea → ∃ left top : ℕ, entry.2.left = left ∧ entry.2.top = top
  large : ∀ entry ∈ rects, entry.2.HasArea → 2 * gap + 1 ≤ entry.2.width ∧ 2 * gap + 1 ≤ entry.2.height
  apart : Apart rects

section

variable {gap : ℕ} {rects : List (String × Rect ℚ)}

theorem Separate.perm {others : List (String × Rect ℚ)} (hseparate : Separate gap rects) (hperm : others.Perm rects) :
    Separate gap others := by
  refine ⟨?_, ?_, ?_⟩
  · intro entry hentry
    exact hseparate.whole entry (hperm.mem_iff.mp hentry)
  · intro entry hentry
    exact hseparate.large entry (hperm.mem_iff.mp hentry)
  · apply (hperm.pairwise_iff _).mpr hseparate.apart
    intro a b h hb ha x y hxy
    exact h ha hb x y hxy.symm

theorem separate_singleton {name : String} {left top : ℕ} {width height : ℚ} (hwidth : 2 * gap + 1 ≤ width)
    (hheight : 2 * gap + 1 ≤ height) : Separate gap [(name, ⟨left, top, width, height⟩)] := by
  refine ⟨?_, ?_, List.pairwise_singleton _ _⟩
  · exact List.forall_mem_singleton.mpr fun _ => ⟨left, top, rfl, rfl⟩
  · exact List.forall_mem_singleton.mpr fun _ => ⟨hwidth, hheight⟩

/-- On one axis: the edges are between pixels, and the gap leaves a pixel. -/
theorem onPixels_of_wide {low : ℕ} {size : ℚ} (hwide : 2 * gap + 1 ≤ size) :
    OnPixels gap (low : ℚ) (low + size) ∧ (low : ℤ) + gap ≤ ⌊(low + size : ℚ)⌋ - gap - 1 := by
  have hlow : (0 : ℚ) ≤ low := Nat.cast_nonneg low
  have hgap : (0 : ℚ) ≤ gap := Nat.cast_nonneg gap
  constructor
  · exact ⟨⟨low, rfl⟩, .inr ⟨hlow, by linarith⟩⟩
  · have hfloor : (low + (2 * gap + 1) : ℤ) ≤ ⌊(low + size : ℚ)⌋ := by
      apply Int.le_floor.mpr
      push_cast
      linarith
    omega

theorem Separate.allOnPixels (hseparate : Separate gap rects) : AllOnPixels gap rects := by
  intro entry hentry harea
  obtain ⟨left, top, hleft, htop⟩ := hseparate.whole entry hentry harea
  obtain ⟨hwidth, hheight⟩ := hseparate.large entry hentry harea
  rw [Rect.right, Rect.bottom, hleft, htop]
  exact ⟨(onPixels_of_wide hwidth).1, (onPixels_of_wide hheight).1⟩

theorem Separate.nonempty (hseparate : Separate gap rects) {entry : String × Rect ℚ} (hentry : entry ∈ rects)
    (harea : entry.2.HasArea) :
    (insetBox gap entry.2).left ≤ (insetBox gap entry.2).right ∧
      (insetBox gap entry.2).top ≤ (insetBox gap entry.2).bottom := by
  obtain ⟨left, top, hleft, htop⟩ := hseparate.whole entry hentry harea
  obtain ⟨hwidth, hheight⟩ := hseparate.large entry hentry harea
  simp only [insetBox, Rect.right, Rect.bottom, hleft, htop, Int.floor_natCast]
  exact ⟨(onPixels_of_wide hwidth).2, (onPixels_of_wide hheight).2⟩

theorem Separate.boxOf?_eq (hseparate : Separate gap rects) {entry : String × Rect ℚ} (hentry : entry ∈ rects)
    (harea : entry.2.HasArea) : boxOf? truncated (gap : ℚ) entry.2 = some (insetBox gap entry.2) := by
  obtain ⟨hcolumns, hrows⟩ := hseparate.nonempty hentry harea
  obtain ⟨hcolumnPixels, hrowPixels⟩ := hseparate.allOnPixels entry hentry harea
  rw [boxOf?_eq_insetBox harea hcolumnPixels hrowPixels, PixelBox.atLeastOne, max_eq_left hcolumns,
    max_eq_left hrows]

theorem contains_of_insetBox {rect : Rect ℚ} {x y : ℤ} (hleft : ∃ n : ℤ, rect.left = n)
    (htop : ∃ n : ℤ, rect.top = n) (hbox : (insetBox gap rect).contains x y = true) :
    rect.contains x y = true := by
  obtain ⟨left, hleft⟩ := hleft
  obtain ⟨top, htop⟩ := htop
  rw [PixelBox.contains_iff] at hbox
  simp only [insetBox, hleft, htop, Int.floor_intCast] at hbox
  obtain ⟨hxLow, hxHigh, hyLow, hyHigh⟩ := hbox
  rw [Rect.contains, decide_eq_true_iff, hleft, htop]
  have hright : (x : ℚ) < ⌊rect.right⌋ := by exact_mod_cast (by omega : x < ⌊rect.right⌋)
  have hbottom : (y : ℚ) < ⌊rect.bottom⌋ := by exact_mod_cast (by omega : y < ⌊rect.bottom⌋)
  refine ⟨?_, hright.trans_le (Int.floor_le _), ?_, hbottom.trans_le (Int.floor_le _)⟩
  · exact_mod_cast (by omega : left ≤ x)
  · exact_mod_cast (by omega : top ≤ y)

/-- A pixel is in one box at most. -/
theorem Separate.eq_of_contains (hseparate : Separate gap rects) {a b : String × Rect ℚ} (ha : a ∈ rects)
    (hb : b ∈ rects) (haArea : a.2.HasArea) (hbArea : b.2.HasArea) {x y : ℤ}
    (hax : (insetBox gap a.2).contains x y = true) (hbx : (insetBox gap b.2).contains x y = true) : a = b := by
  obtain ⟨haColumns, haRows⟩ := hseparate.allOnPixels a ha haArea
  obtain ⟨hbColumns, hbRows⟩ := hseparate.allOnPixels b hb hbArea
  exact hseparate.apart.eq_of_contains ha hb haArea hbArea (contains_of_insetBox haColumns.before haRows.before hax)
    (contains_of_insetBox hbColumns.before hbRows.before hbx)

/-- The pixels below the ends of a single row are not inside another box. -/
theorem Separate.not_surrounds_of_endsAbove (hseparate : Separate gap rects) {a b : String × Rect ℚ} (ha : a ∈ rects)
    (hb : b ∈ rects) (haArea : a.2.HasArea) (hbArea : b.2.HasArea) {x y : ℤ}
    (hends : (insetBox gap a.2).EndsAbove x y) : ¬ (insetBox gap b.2).Surrounds x y := by
  intro hinside
  have hcolumns := (hseparate.nonempty ha haArea).1
  obtain ⟨hrow, hy, hx⟩ := hends
  obtain ⟨hleft, hright, htop, hbottom⟩ := hinside
  -- The box would hold the end itself, which is in the single row.
  have habove : (insetBox gap a.2).contains x (y - 1) = true := by
    rw [PixelBox.contains_iff]
    omega
  have hshared : (insetBox gap b.2).contains x (y - 1) = true := by
    rw [PixelBox.contains_iff]
    omega
  obtain rfl := hseparate.eq_of_contains ha hb haArea hbArea habove hshared
  omega

end

/-! ### Pictures -/

/-- What a picture shows of regions that are separate. -/
structure ShowsInsets (gap : ℕ) (background outline : Colour) (rects : List (String × Rect ℚ)) (picture : Picture) :
    Prop where
  inside : ∀ entry ∈ rects, entry.2.HasArea → ∀ x y, (insetBox gap entry.2).Surrounds x y →
    picture.pixel x y = Colour.ofName entry.1
  border : ∀ entry ∈ rects, entry.2.HasArea → ∀ x y, (insetBox gap entry.2).contains x y = true →
    ¬ (insetBox gap entry.2).Surrounds x y → picture.pixel x y = outline
  below : ∀ entry ∈ rects, entry.2.HasArea → ∀ x y, (insetBox gap entry.2).EndsAbove x y →
    Colour.ofName entry.1 ≠ outline → picture.pixel x y = outline
  around : ∀ x y, (∀ entry ∈ rects, entry.2.HasArea → ¬ (insetBox gap entry.2).contains x y = true ∧
    ((insetBox gap entry.2).EndsAbove x y → Colour.ofName entry.1 = outline)) → picture.pixel x y = background

section

variable {gap : ℕ} {background outline : Colour} {rects : List (String × Rect ℚ)} {picture : Picture}

theorem ShowsInsets.perm {others : List (String × Rect ℚ)} (hshows : ShowsInsets gap background outline others picture)
    (hperm : others.Perm rects) : ShowsInsets gap background outline rects picture := by
  refine ⟨?_, ?_, ?_, ?_⟩
  · intro entry hentry
    exact hshows.inside entry (hperm.mem_iff.mpr hentry)
  · intro entry hentry
    exact hshows.border entry (hperm.mem_iff.mpr hentry)
  · intro entry hentry
    exact hshows.below entry (hperm.mem_iff.mpr hentry)
  · intro x y hoff
    apply hshows.around
    intro entry hentry
    exact hoff entry (hperm.mem_iff.mp hentry)

/-- The pixels are told by the regions alone. -/
theorem ShowsInsets.pixel_eq {other : Picture} (hshows : ShowsInsets gap background outline rects picture)
    (hother : ShowsInsets gap background outline rects other) (x y : ℤ) : other.pixel x y = picture.pixel x y := by
  by_cases hbox : ∃ entry ∈ rects, entry.2.HasArea ∧ (insetBox gap entry.2).contains x y = true
  · obtain ⟨entry, hentry, harea, hcontains⟩ := hbox
    by_cases hinside : (insetBox gap entry.2).Surrounds x y
    · rw [hshows.inside entry hentry harea x y hinside, hother.inside entry hentry harea x y hinside]
    · rw [hshows.border entry hentry harea x y hcontains hinside,
        hother.border entry hentry harea x y hcontains hinside]
  · by_cases hends : ∃ entry ∈ rects, entry.2.HasArea ∧ (insetBox gap entry.2).EndsAbove x y ∧
        Colour.ofName entry.1 ≠ outline
    · obtain ⟨entry, hentry, harea, hends, hcolour⟩ := hends
      rw [hshows.below entry hentry harea x y hends hcolour, hother.below entry hentry harea x y hends hcolour]
    · have hoff : ∀ entry ∈ rects, entry.2.HasArea → ¬ (insetBox gap entry.2).contains x y = true ∧
          ((insetBox gap entry.2).EndsAbove x y → Colour.ofName entry.1 = outline) := by
        intro entry hentry harea
        constructor
        · intro hcontains
          exact hbox ⟨entry, hentry, harea, hcontains⟩
        · intro hbelow
          by_contra hcolour
          exact hends ⟨entry, hentry, harea, hbelow, hcolour⟩
      rw [hshows.around x y hoff, hother.around x y hoff]

/-- The boxes of a picture are those of the regions that have an area. -/
theorem Separate.mem_boxes_iff (hseparate : Separate gap rects)
    (hboxes : ∀ box, box ∈ picture.boxes ↔ ∃ entry ∈ rects, boxOf? truncated (gap : ℚ) entry.2 = some box.1 ∧
      Colour.ofName entry.1 = box.2) (box : PixelBox × Colour) :
    box ∈ picture.boxes ↔ ∃ entry ∈ rects, entry.2.HasArea ∧ (insetBox gap entry.2, Colour.ofName entry.1) = box := by
  rw [hboxes]
  constructor
  · intro ⟨entry, hentry, hbox, hcolour⟩
    have harea := hasArea_of_boxOf?_eq_some hbox
    rw [hseparate.boxOf?_eq hentry harea] at hbox
    exact ⟨entry, hentry, harea, Prod.ext (Option.some_inj.mp hbox) hcolour⟩
  · intro ⟨entry, hentry, harea, hbox⟩
    subst hbox
    exact ⟨entry, hentry, hseparate.boxOf?_eq hentry harea, rfl⟩

theorem Separate.showsInsets (hseparate : Separate gap rects)
    (hboxes : ∀ box, box ∈ picture.boxes ↔
      ∃ entry ∈ rects, entry.2.HasArea ∧ (insetBox gap entry.2, Colour.ofName entry.1) = box) :
    ShowsInsets gap picture.background picture.outline rects picture := by
  have howns {entry : String × Rect ℚ} (hentry : entry ∈ rects) (harea : entry.2.HasArea) :
      (insetBox gap entry.2, Colour.ofName entry.1) ∈ picture.boxes :=
    (hboxes _).mpr ⟨entry, hentry, harea, rfl⟩
  refine ⟨?_, ?_, ?_, ?_⟩
  · intro entry hentry harea x y hinside
    apply Picture.pixel_eq_of_painted (howns hentry harea) (Picture.painted?_of_surrounds hinside)
    intro box hbox
    obtain ⟨other, hother, hotherArea, rfl⟩ := (hboxes box).mp hbox
    by_cases hshared : (insetBox gap other.2).contains x y = true
    · obtain rfl := hseparate.eq_of_contains hentry hother harea hotherArea hinside.contains hshared
      exact .inr (Picture.painted?_of_surrounds hinside)
    · left
      obtain ⟨hcolumns, hrows⟩ := hseparate.nonempty hother hotherArea
      apply Picture.painted?_eq_none hcolumns hrows hshared
      intro hends
      exact (hseparate.not_surrounds_of_endsAbove hother hentry hotherArea harea hends hinside).elim
  · intro entry hentry harea x y hcontains hborder
    apply Picture.pixel_eq_of_painted (howns hentry harea) (Picture.painted?_of_border hcontains hborder)
    intro box hbox
    obtain ⟨other, hother, hotherArea, rfl⟩ := (hboxes box).mp hbox
    obtain ⟨hcolumns, hrows⟩ := hseparate.nonempty hother hotherArea
    apply Picture.painted?_of_not_surrounds hcolumns hrows
    intro hinside
    obtain rfl := hseparate.eq_of_contains hentry hother harea hotherArea hcontains hinside.contains
    exact hborder hinside
  · intro entry hentry harea x y hends hcolour
    apply Picture.pixel_eq_of_painted (howns hentry harea) (Picture.painted?_of_endsAbove hends hcolour.symm)
    intro box hbox
    obtain ⟨other, hother, hotherArea, rfl⟩ := (hboxes box).mp hbox
    obtain ⟨hcolumns, hrows⟩ := hseparate.nonempty hother hotherArea
    apply Picture.painted?_of_not_surrounds hcolumns hrows
    exact hseparate.not_surrounds_of_endsAbove hentry hother harea hotherArea hends
  · intro x y hoff
    apply Picture.pixel_eq_background
    intro box hbox
    obtain ⟨entry, hentry, harea, rfl⟩ := (hboxes box).mp hbox
    obtain ⟨hcolumns, hrows⟩ := hseparate.nonempty hentry harea
    obtain ⟨hnot, hcolour⟩ := hoff entry hentry harea
    apply Picture.painted?_eq_none hcolumns hrows hnot
    intro hends
    exact (hcolour hends).symm

end

/-- The pictures have the same size and the same pixels. -/
structure Picture.LooksLike (a b : Picture) : Prop where
  width_eq : a.width = b.width
  height_eq : a.height = b.height
  pixel_eq : ∀ x y, a.pixel x y = b.pixel x y

theorem Separate.ofRects_eq_ok {gap : ℕ} {rects : List (String × Rect ℚ)} {width height : ℤ}
    (hseparate : Separate gap rects) (hsize : sizeError? width height = none) (background outline : Colour) :
    ∃ picture, Picture.ofRects truncated { gap := (gap : ℚ), background, outline } width height rects = .ok picture ∧
      (picture.width : ℤ) = width ∧ (picture.height : ℤ) = height ∧
      ShowsInsets gap background outline rects picture := by
  let style : DrawingStyle ℚ := { gap := (gap : ℚ), background, outline }
  obtain ⟨picture, hpicture, hwidth, hheight, hbackground, houtline, hboxes⟩ :=
    @Picture.ofRects_eq_ok ℚ _ _ _ _ _ _ _ _ truncated style _ _ hsize rects
  have hshows := hseparate.showsInsets (hseparate.mem_boxes_iff hboxes)
  rw [hbackground, houtline] at hshows
  exact ⟨picture, hpicture, hwidth, hheight, hshows⟩

end RegionGrid
