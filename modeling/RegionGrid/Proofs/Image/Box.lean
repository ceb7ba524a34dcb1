import RegionGrid.Image.Picture
import RegionGrid.Proofs.Number.Exact

/-!
# The boxes of regions

Over exact numbers, where a coordinate is cut to a pixel by cutting off its fraction. The box of a region is its
rectangle with the gap taken off on every side, or a single row or column where the gap leaves nothing. So it
lies inside the rectangle exactly if the gap alone does not reach the other side. The sides of an outline are
drawn from the row after the first one: around a single row it needs the row below, too.
-/

namespace RegionGrid

open Binary64 (truncated truncated_of_nonneg truncated_intCast)

/-- The rectangle is one of those that are drawn. -/
def Rect.HasArea {α : Type} [Zero α] [LE α] (rect : Rect α) : Prop := ¬ (rect.width ≤ 0 ∨ rect.height ≤ 0)

theorem larger_eq_max (x y : ℚ) : larger x y = max x y := by
  rw [larger]
  split
  · next hlt => exact (max_eq_right hlt.le).symm
  · next hle => exact (max_eq_left (not_lt.mp hle)).symm

/--
The two edges of a rectangle on one axis, the first of them between two pixels. Inside the second one there are
whole pixels, unless it is between two pixels as well.
-/
structure OnPixels (gap : ℕ) (low high : ℚ) : Prop where
  before : ∃ n : ℤ, low = n
  after : (∃ n : ℤ, high = n) ∨ 0 ≤ low ∧ gap + 1 ≤ high

/-- The rectangle with the gap taken off on every side. -/
def insetBox (gap : ℕ) (rect : Rect ℚ) : PixelBox where
  left := ⌊rect.left⌋ + gap
  top := ⌊rect.top⌋ + gap
  right := ⌊rect.right⌋ - gap - 1
  bottom := ⌊rect.bottom⌋ - gap - 1

/-- The box with a row and a column at least. -/
def PixelBox.atLeastOne (box : PixelBox) : PixelBox where
  left := box.left
  top := box.top
  right := max box.right box.left
  bottom := max box.bottom box.top

section

variable {gap : ℕ} {low high : ℚ}

theorem OnPixels.truncated_low (hpixels : OnPixels gap low high) : truncated (low + gap) = ⌊low⌋ + gap := by
  obtain ⟨n, rfl⟩ := hpixels.before
  rw [Int.floor_intCast]
  exact_mod_cast truncated_intCast (n + gap)

theorem OnPixels.truncated_larger (hpixels : OnPixels gap low high) :
    truncated (larger (high - gap - 1) (low + gap)) = max (⌊high⌋ - gap - 1) (⌊low⌋ + gap) := by
  obtain ⟨n, rfl⟩ := hpixels.before
  rw [larger_eq_max, Int.floor_intCast]
  rcases hpixels.after with ⟨m, rfl⟩ | ⟨hlow, -⟩
  · rw [Int.floor_intCast]
    exact_mod_cast truncated_intCast (max (m - gap - 1) (n + gap))
  · have hnonneg : (0 : ℚ) ≤ n + gap := add_nonneg hlow (Nat.cast_nonneg gap)
    have hwhole : ⌊(n + gap : ℚ)⌋ = n + gap := by exact_mod_cast Int.floor_intCast (n + gap : ℤ)
    rw [truncated_of_nonneg (le_max_of_le_right hnonneg), Int.floor_mono.map_max, Int.floor_sub_one,
      Int.floor_sub_natCast, hwhole]

end

theorem hasArea_of_boxOf?_eq_some {gap : ℚ} {rect : Rect ℚ} {box : PixelBox}
    (hbox : boxOf? truncated gap rect = some box) : rect.HasArea := by
  intro hflat
  rw [boxOf?, if_pos hflat] at hbox
  cases hbox

theorem boxOf?_eq_insetBox {gap : ℕ} {rect : Rect ℚ} (harea : rect.HasArea)
    (hcolumns : OnPixels gap rect.left rect.right) (hrows : OnPixels gap rect.top rect.bottom) :
    boxOf? truncated (gap : ℚ) rect = some (insetBox gap rect).atLeastOne := by
  rw [boxOf?, if_neg harea]
  simp only [hcolumns.truncated_low, hcolumns.truncated_larger, hrows.truncated_low, hrows.truncated_larger]
  rw [min_eq_left (le_max_right _ _), max_eq_right (le_max_right _ _)]
  rfl

/-! ### Where a box lies -/

theorem PixelBox.contains_iff {box : PixelBox} {x y : ℤ} :
    box.contains x y = true ↔ box.left ≤ x ∧ x ≤ box.right ∧ box.top ≤ y ∧ y ≤ box.bottom := by
  simp [PixelBox.contains, and_assoc]

theorem PixelBox.outlines_iff {box : PixelBox} {x y : ℤ} :
    box.outlines x y = true ↔
      ((y = box.top ∨ y = box.bottom) ∧ box.left ≤ x ∧ x ≤ box.right) ∨
        ((x = box.left ∨ x = box.right) ∧ min (box.top + 1) box.bottom ≤ y ∧ y ≤ max (box.top + 1) box.bottom) := by
  simp [PixelBox.outlines, and_assoc]

/-- The coordinates of the rectangle are whole numbers. -/
def Rect.IsWhole (rect : Rect ℚ) : Prop := ∃ left top width height : ℤ, rect = ⟨left, top, width, height⟩

theorem Rect.IsWhole.onPixels {rect : Rect ℚ} (hwhole : rect.IsWhole) (gap : ℕ) :
    OnPixels gap rect.left rect.right ∧ OnPixels gap rect.top rect.bottom := by
  obtain ⟨left, top, width, height, rfl⟩ := hwhole
  exact ⟨⟨⟨left, rfl⟩, .inl ⟨left + width, (Int.cast_add _ _).symm⟩⟩,
    ⟨top, rfl⟩, .inl ⟨top + height, (Int.cast_add _ _).symm⟩⟩

section

variable {gap : ℕ} {left top width height : ℤ}

theorem Rect.contains_iff_of_whole {x y : ℤ} :
    Rect.contains (⟨left, top, width, height⟩ : Rect ℚ) x y = true ↔
      left ≤ x ∧ x < left + width ∧ top ≤ y ∧ y < top + height := by
  rw [Rect.contains, decide_eq_true_iff, Rect.right, Rect.bottom]
  dsimp only
  norm_cast

theorem insetBox_of_whole :
    insetBox gap (⟨left, top, width, height⟩ : Rect ℚ) =
      ⟨left + gap, top + gap, left + width - gap - 1, top + height - gap - 1⟩ := by
  rw [insetBox, Rect.right, Rect.bottom]
  dsimp only
  norm_cast

private theorem atLeastOne_inside_iff :
    (∀ x y, (PixelBox.atLeastOne ⟨left + gap, top + gap, left + width - gap - 1, top + height - gap - 1⟩).contains
        x y = true → left ≤ x ∧ x < left + width ∧ top ≤ y ∧ y < top + height) ↔
      gap < width ∧ gap < height := by
  simp only [PixelBox.contains_iff, PixelBox.atLeastOne]
  constructor
  · intro hinside
    have hcorner := hinside (left + gap) (top + gap)
    omega
  · intro hgap x y hbox
    omega

private theorem atLeastOne_outlines_inside_iff :
    (∀ x y, (PixelBox.atLeastOne ⟨left + gap, top + gap, left + width - gap - 1, top + height - gap - 1⟩).outlines
        x y = true → left ≤ x ∧ x < left + width ∧ top ≤ y ∧ y < top + height) ↔
      gap < width ∧ gap + 1 < height := by
  simp only [PixelBox.outlines_iff, PixelBox.atLeastOne]
  constructor
  · intro hinside
    have hside := hinside (left + gap) (top + gap + 1)
    omega
  · intro hgap x y houtline
    omega

end

/-- Where the box of a region lies, and where its outline does. -/
theorem exists_boxOf?_inside_iff (gap : ℕ) {rect : Rect ℚ} (hwhole : rect.IsWhole) (harea : rect.HasArea) :
    ∃ box, boxOf? truncated (gap : ℚ) rect = some box ∧
      ((∀ x y : ℤ, box.contains x y = true → rect.contains x y = true) ↔ gap < rect.width ∧ gap < rect.height) ∧
      ((∀ x y : ℤ, box.outlines x y = true → rect.contains x y = true) ↔
        gap < rect.width ∧ gap + 1 < rect.height) := by
  obtain ⟨hcolumns, hrows⟩ := hwhole.onPixels gap
  have hbox := boxOf?_eq_insetBox harea hcolumns hrows
  obtain ⟨left, top, width, height, rfl⟩ := hwhole
  rw [insetBox_of_whole] at hbox
  refine ⟨_, hbox, ?_, ?_⟩
  · simp only [Rect.contains_iff_of_whole]
    rw [atLeastOne_inside_iff]
    norm_cast
  · simp only [Rect.contains_iff_of_whole]
    rw [atLeastOne_outlines_inside_iff]
    norm_cast

end RegionGrid
