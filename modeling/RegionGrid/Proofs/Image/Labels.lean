import RegionGrid.Image.Picture
import RegionGrid.Proofs.Checks
import Mathlib.Tactic.SplitIfs

/-!
# Regions that cannot be drawn

A region with an area cannot be drawn for a value error if its name has no UTF-8 form, or if it makes no sense to
the font: when it is measured, or, where the box has room for it, when it is drawn. Regions are drawn one after the
other, so that the first one that cannot be drawn decides.
-/

namespace RegionGrid

/-- The errors of pictures that say that a value makes no sense. -/
def PictureError.isValueError : PictureError → Bool
  | negativeSize | unencodableName _ | unknownExtension _ | notNumbered _ | empty _ => true
  | library e => e.isValueError
  | sideOutOfRange _ | noMemory | noColour | onlyRead _ | noEncoder => false

namespace Picture

variable {font : Font} {gap : Float} {name : String} {rect : Rect Float} {rects : List (String × Rect Float)}

/-- What makes no sense about drawing a region. -/
inductive Undrawable (font : Font) (gap : Float) (name : String) (rect : Rect Float) : Prop
  | unencodable (harea : ¬ (rect.width ≤ 0 ∨ rect.height ≤ 0)) (hname : isEncodable name = false)
  | unmeasured {e : LibraryError} (harea : ¬ (rect.width ≤ 0 ∨ rect.height ≤ 0)) (hname : isEncodable name = true)
      (hextent : font.extent name = .error e) (he : e.isValueError = true)
  | undrawn {extent : Float × Float} {label : RegionLabel} {e : LibraryError}
      (harea : ¬ (rect.width ≤ 0 ∨ rect.height ≤ 0)) (hname : isEncodable name = true)
      (hextent : font.extent name = .ok extent) (hlabel : labelIn? gap name rect extent = some label)
      (hobstacle : font.obstacle? label.text label.left label.top = some e) (he : e.isValueError = true)

theorem failsWith_labelOf?_iff :
    FailsWith (fun e => e.isValueError = true) (labelOf? font gap name rect) ↔ Undrawable font gap name rect := by
  rw [labelOf?]
  by_cases harea : rect.width ≤ 0 ∨ rect.height ≤ 0
  · rw [if_pos harea]
    refine iff_of_false not_failsWith_pure fun hundrawable => ?_
    cases hundrawable <;> contradiction
  · rw [if_neg harea]
    cases hname : isEncodable name with
    | false => exact iff_of_true (failsWith_throw_iff.mpr rfl) (.unencodable harea hname)
    | true =>
      simp only [if_true, failsWith_bind_iff, failsWith_mapError_iff, mapError_eq_ok_iff]
      constructor
      · rintro (⟨e, hextent, he⟩ | ⟨extent, hextent, hdrawn⟩)
        · exact .unmeasured harea hname hextent he
        · cases hlabel : labelIn? gap name rect extent with
          | none => simp [hlabel] at hdrawn
          | some label =>
            cases hobstacle : font.obstacle? label.text label.left label.top with
            | none => simp [hlabel, hobstacle] at hdrawn
            | some e =>
              simp only [hlabel, Option.bind_some, hobstacle, failsWith_throw_iff] at hdrawn
              exact .undrawn harea hname hextent hlabel hobstacle hdrawn
      · intro hundrawable
        cases hundrawable with
        | unencodable _ hname' => simp [hname] at hname'
        | unmeasured _ _ hextent he => exact .inl ⟨_, hextent, he⟩
        | undrawn _ _ hextent hlabel hobstacle he =>
          refine .inr ⟨_, hextent, ?_⟩
          simp only [hlabel, Option.bind_some, hobstacle, failsWith_throw_iff]
          exact he

/-- A region can be drawn, with its label if it has one. -/
def Drawable (font : Font) (gap : Float) (region : String × Rect Float) : Prop :=
  ∃ label?, labelOf? font gap region.1 region.2 = .ok label?

/-- Without labels, a region can be drawn if its name has a UTF-8 form. -/
theorem drawable_oversized {region : String × Rect Float} (hname : isEncodable region.1 = true) :
    Drawable .oversized gap region := by
  rw [Drawable, labelOf?]
  split_ifs
  · exact ⟨none, rfl⟩
  · refine ⟨labelIn? gap region.1 region.2 (1 / 0, 1 / 0), ?_⟩
    simp [Font.oversized, Except.mapError, bind, Except.bind, pure, Except.pure]

theorem failsWith_labelsOf_iff : FailsWith (fun e => e.isValueError = true) (labelsOf font gap rects) ↔
    ∃ drawn region rest, rects = drawn ++ region :: rest ∧ (∀ other ∈ drawn, Drawable font gap other) ∧
      Undrawable font gap region.1 region.2 := by
  simp only [labelsOf, failsWith_bind_iff, not_failsWith_pure, and_false, exists_false, or_false, failsWith_mapM_iff,
    failsWith_labelOf?_iff]
  rfl

theorem exists_labelsOf_eq_ok_iff :
    (∃ labels, labelsOf font gap rects = .ok labels) ↔ ∀ region ∈ rects, Drawable font gap region := by
  refine Iff.trans ?_ exists_mapM_eq_ok_iff
  rw [labelsOf]
  constructor
  · rintro ⟨labels, hlabels⟩
    obtain ⟨labels?, hlabels, -⟩ := bind_eq_ok_iff.mp hlabels
    exact ⟨labels?, hlabels⟩
  · rintro ⟨labels?, hlabels⟩
    exact ⟨_, bind_eq_ok_iff.mpr ⟨labels?, hlabels, rfl⟩⟩

end Picture

end RegionGrid
