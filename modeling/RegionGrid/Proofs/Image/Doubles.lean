import RegionGrid.Proofs.Image.Box
import RegionGrid.Proofs.Number.ExactSum

/-!
# Boxes computed with doubles

The program computes the boxes of regions with doubles, and cuts their coordinates to 32 bits. For edges between
pixels nothing is rounded on the way, so that boxes whose coordinates have 32 bits are those of the exact
rectangles, and the pictures are the same.
-/

namespace RegionGrid

open Binary64 (StandsFor truncated standsFor_zero standsFor_iff_denotes Representable representable_intCast)

theorem standsFor_of_ofFloat {x : Float} {m : ℕ} {e : ℤ} {q : ℚ} (hparts : Binary64.ofFloat x = .finite false m e)
    (hq : m * 2 ^ e = q) : StandsFor x q :=
  (congrArg Binary64.value? hparts).trans (congrArg some hq)

theorem standsFor_one : StandsFor 1 1 := standsFor_of_ofFloat (m := 2 ^ 52) (e := -52) rfl (by norm_num)

theorem pixelCoordinate_eq {x : Float} {q : ℚ} (hx : StandsFor x q) (hleast : -2 ^ 31 ≤ truncated q)
    (hmost : truncated q < 2 ^ 31) : pixelCoordinate x = truncated q := by
  simp only [pixelCoordinate, hx.truncate?_eq]
  rw [if_pos ⟨hleast, hmost⟩]

theorem standsFor_larger {x y : Float} {p q : ℚ} (hx : StandsFor x p) (hy : StandsFor y q) :
    StandsFor (larger x y) (larger p q) := by
  rw [RegionGrid.larger, RegionGrid.larger]
  simp only [hx.lt_iff hy]
  split
  · exact hy
  · exact hx

/-- Two edges on one axis that have 32 bits, the first one with the gap. -/
structure Addressable (gap : ℕ) (low high : ℚ) : Prop where
  low_ge : -2 ^ 31 ≤ low
  low_lt : low + gap < 2 ^ 31
  high_ge : -2 ^ 31 ≤ high
  high_le : high ≤ 2 ^ 31

section

variable {gapDouble lowDouble highDouble : Float} {gap : ℕ} {low high : ℚ}

theorem standsFor_insetEdges (hgap : StandsFor gapDouble gap) (hlow : StandsFor lowDouble low)
    (hhigh : StandsFor highDouble high) (hpixels : OnPixels gap low high) (hbits : Addressable gap low high) :
    StandsFor (lowDouble + gapDouble) (low + gap) ∧
      StandsFor (highDouble - gapDouble - 1) (high - gap - 1) := by
  obtain ⟨hlowGe, hlowLt, hhighGe, hhighLe⟩ := hbits
  obtain ⟨n, rfl⟩ := hpixels.before
  have hlowGe : -2 ^ 31 ≤ n := by exact_mod_cast hlowGe
  have hlowLt : n + gap < 2 ^ 31 := by exact_mod_cast hlowLt
  constructor
  · apply hlow.add hgap
    exact_mod_cast representable_intCast (n := n + gap) (by omega)
  · rcases hpixels.after with ⟨m, rfl⟩ | ⟨-, hlarge⟩
    · have hhighGe : -2 ^ 31 ≤ m := by exact_mod_cast hhighGe
      have hhighLe : m ≤ 2 ^ 31 := by exact_mod_cast hhighLe
      have hfirst : StandsFor (highDouble - gapDouble) (m - gap) := by
        apply hhigh.sub hgap
        exact_mod_cast representable_intCast (n := m - gap) (by omega)
      apply hfirst.sub standsFor_one
      exact_mod_cast representable_intCast (n := m - gap - 1) (by omega)
    · have hsmall : high < 2 ^ 53 := hhighLe.trans_lt (by norm_num)
      have hgapNonneg : (0 : ℚ) ≤ gap := Nat.cast_nonneg gap
      have hfirst : StandsFor (highDouble - gapDouble) (high - gap) :=
        hhigh.sub hgap (Representable.sub_natCast ⟨_, standsFor_iff_denotes.mp hhigh⟩ hsmall (by linarith))
      have hrest := Representable.sub_natCast (n := 1) ⟨_, standsFor_iff_denotes.mp hfirst⟩
        (by linarith) (by push_cast; linarith)
      rw [Nat.cast_one] at hrest
      exact hfirst.sub standsFor_one hrest

theorem pixelCoordinate_insetEdges (hgap : StandsFor gapDouble gap) (hlow : StandsFor lowDouble low)
    (hhigh : StandsFor highDouble high) (hpixels : OnPixels gap low high) (hbits : Addressable gap low high) :
    pixelCoordinate (lowDouble + gapDouble) = truncated (low + gap) ∧
      pixelCoordinate (larger (highDouble - gapDouble - 1) (lowDouble + gapDouble)) =
        truncated (larger (high - gap - 1) (low + gap)) := by
  obtain ⟨hfirst, hlast⟩ := standsFor_insetEdges hgap hlow hhigh hpixels hbits
  have hlowFloor : -2 ^ 31 ≤ ⌊low⌋ ∧ ⌊low⌋ + gap < 2 ^ 31 := by
    obtain ⟨n, rfl⟩ := hpixels.before
    rw [Int.floor_intCast]
    exact ⟨by exact_mod_cast hbits.low_ge, by exact_mod_cast hbits.low_lt⟩
  have hhighFloor : ⌊high⌋ ≤ 2 ^ 31 := by
    have := (Int.floor_le high).trans hbits.high_le
    exact_mod_cast this
  constructor
  · apply pixelCoordinate_eq hfirst
    · rw [hpixels.truncated_low]
      omega
    · rw [hpixels.truncated_low]
      omega
  · apply pixelCoordinate_eq (standsFor_larger hlast hfirst)
    · rw [hpixels.truncated_larger]
      omega
    · rw [hpixels.truncated_larger]
      omega

end

/-- A region of doubles and the exact one that it is drawn like. -/
structure Depicts (gap : ℕ) (double : String × Rect Float) (exact : String × Rect ℚ) : Prop where
  name_eq : double.1 = exact.1
  area_iff : double.2.HasArea ↔ exact.2.HasArea
  columns : exact.2.HasArea → StandsFor double.2.left exact.2.left ∧ StandsFor double.2.right exact.2.right ∧
    Addressable gap exact.2.left exact.2.right
  rows : exact.2.HasArea → StandsFor double.2.top exact.2.top ∧ StandsFor double.2.bottom exact.2.bottom ∧
    Addressable gap exact.2.top exact.2.bottom

section

variable {gap : ℕ} {name : String} {rect : Rect Float}

theorem depicts_of_representable {left top width height : ℚ} (hleft : StandsFor rect.left left)
    (htop : StandsFor rect.top top) (hwidth : StandsFor rect.width width) (hheight : StandsFor rect.height height)
    (hright : Representable (left + width)) (hbottom : Representable (top + height))
    (hcolumns : Addressable gap left (left + width)) (hrows : Addressable gap top (top + height)) :
    Depicts gap (name, rect) (name, ⟨left, top, width, height⟩) := by
  refine ⟨rfl, ?_, fun _ => ?_, fun _ => ?_⟩
  · exact not_congr (or_congr (hwidth.le_iff standsFor_zero) (hheight.le_iff standsFor_zero))
  · exact ⟨hleft, hleft.add hwidth hright, hcolumns⟩
  · exact ⟨htop, htop.add hheight hbottom, hrows⟩

theorem depicts_of_whole {left top width height : ℤ} (hleft : StandsFor rect.left left)
    (htop : StandsFor rect.top top) (hwidth : StandsFor rect.width width) (hheight : StandsFor rect.height height)
    (hcolumns : Addressable gap left (left + width)) (hrows : Addressable gap top (top + height)) :
    Depicts gap (name, rect) (name, ⟨left, top, width, height⟩) := by
  have hsum {low size : ℤ} (hbits : Addressable gap low (low + size)) : Representable (low + size) := by
    obtain ⟨-, -, hge, hle⟩ := hbits
    have hge : -2 ^ 31 ≤ low + size := by exact_mod_cast hge
    have hle : low + size ≤ 2 ^ 31 := by exact_mod_cast hle
    exact_mod_cast representable_intCast (n := low + size) (by omega)
  exact depicts_of_representable hleft htop hwidth hheight (hsum hcolumns) (hsum hrows) hcolumns hrows

end

/-- The edges of the regions that are drawn are between pixels as far as it matters. -/
def AllOnPixels (gap : ℕ) (rects : List (String × Rect ℚ)) : Prop :=
  ∀ entry ∈ rects, entry.2.HasArea →
    OnPixels gap entry.2.left entry.2.right ∧ OnPixels gap entry.2.top entry.2.bottom

section

variable {gapDouble : Float} {gap : ℕ}

theorem Depicts.boxOf?_eq {double : String × Rect Float} {exact : String × Rect ℚ} (hgap : StandsFor gapDouble gap)
    (hdepicts : Depicts gap double exact) (hpixels : exact.2.HasArea →
      OnPixels gap exact.2.left exact.2.right ∧ OnPixels gap exact.2.top exact.2.bottom) :
    boxOf? pixelCoordinate gapDouble double.2 = boxOf? truncated (gap : ℚ) exact.2 := by
  rw [boxOf?, boxOf?]
  by_cases harea : exact.2.HasArea
  · obtain ⟨hcolumnPixels, hrowPixels⟩ := hpixels harea
    obtain ⟨hleft, hright, hcolumns⟩ := hdepicts.columns harea
    obtain ⟨htop, hbottom, hrows⟩ := hdepicts.rows harea
    obtain ⟨hleftPixel, hrightPixel⟩ := pixelCoordinate_insetEdges hgap hleft hright hcolumnPixels hcolumns
    obtain ⟨htopPixel, hbottomPixel⟩ := pixelCoordinate_insetEdges hgap htop hbottom hrowPixels hrows
    rw [if_neg harea, if_neg (hdepicts.area_iff.mpr harea)]
    simp only [hleftPixel, hrightPixel, htopPixel, hbottomPixel]
  · rw [if_pos (not_not.mp harea), if_pos (not_not.mp fun h => harea (hdepicts.area_iff.mp h))]

theorem ofRects_eq_of_depicts {doubles : List (String × Rect Float)} {rects : List (String × Rect ℚ)}
    (hgap : StandsFor gapDouble gap) (hdepicts : List.Forall₂ (Depicts gap) doubles rects)
    (hpixels : AllOnPixels gap rects) (background outline : Colour) (width height : ℤ) :
    Picture.ofRects pixelCoordinate { gap := gapDouble, background, outline } width height doubles =
      Picture.ofRects truncated { gap := (gap : ℚ), background, outline } width height rects := by
  have hboxes : (doubles.filterMap fun (name, rect) =>
        (boxOf? pixelCoordinate gapDouble rect).map fun box => (box, Colour.ofName name)) =
      rects.filterMap fun (name, rect) =>
        (boxOf? truncated (gap : ℚ) rect).map fun box => (box, Colour.ofName name) := by
    induction hdepicts with
    | nil => rfl
    | cons hhead htail ih =>
      rw [List.filterMap_cons, List.filterMap_cons, ih fun entry hentry => hpixels entry (List.mem_cons_of_mem _ hentry)]
      simp only [hhead.boxOf?_eq hgap (hpixels _ List.mem_cons_self), hhead.name_eq]
  rw [Picture.ofRects, Picture.ofRects]
  simp only [hboxes]

end

end RegionGrid
