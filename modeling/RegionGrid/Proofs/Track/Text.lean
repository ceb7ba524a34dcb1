import RegionGrid.Track
import RegionGrid.Proofs.Number.RoundedText
import RegionGrid.Proofs.Text.Words

/-!
# Track sizes as texts

The text of a track size is a rounded number with its unit. It reads as a track size exactly if the number is
written by places alone, and then as that of the double nearest to the number with six digits. So a track size
is read back from its text if its number is the double nearest to one of six digits in that range.
-/

namespace RegionGrid

namespace TrackSize

variable {s rest : List Char} {numeral : Numeral}

/-- Trimming and lower case leave these characters as they are. -/
def isPlain (c : Char) : Bool := !isBlank c && c.toLower == c

theorem isPlain_of_isDigit {c : Char} (hc : c.isDigit = true) : isPlain c = true := by
  have hrange : 0x30 ≤ c.toNat ∧ c.toNat ≤ 0x39 := by
    simpa [Char.isDigit, UInt32.le_iff_toNat_le] using hc
  have hblank : isBlank c = false := by
    simp only [isBlank]
    grind
  have hupper : ¬ (c.val ≥ 'A'.val ∧ c.val ≤ 'Z'.val) := fun h =>
    absurd (UInt32.le_iff_toNat_le.mp h.1) (not_le.mpr (hrange.2.trans_lt (by decide)))
  rw [isPlain, hblank, Char.toLower, dif_neg hupper, beq_self_eq_true]
  rfl

theorem ofText?_eq_ofChars? {text : String} (htext : text.toList = s) (hplain : s.all isPlain = true) :
    ofText? text = ofChars? s := by
  have hplain : ∀ c ∈ s, isBlank c = false ∧ c.toLower = c := by
    simpa [isPlain, List.all_eq_true] using hplain
  have htrim : Chars.trim s = s := Chars.trim_eq_self fun c hc => (hplain c hc).1
  have hlower : s.map Char.toLower = s :=
    (List.map_congr_left fun c hc => (hplain c hc).2).trans (List.map_id _)
  rw [ofText?, htext, htrim, hlower]

theorem ofChars?_of_read? (hread : Numeral.read? s = some (numeral, rest)) :
    ofChars? s = match rest.dropWhile isBlank with
      | [] | ['p', 'x'] => some (fixed numeral.toFloat)
      | ['f', 'r'] => some (flex numeral.toFloat)
      | _ => none := by
  have hcontent : Numeral.read? "content".toList = none := by decide +kernel
  have hauto : Numeral.read? "auto".toList = none := by decide +kernel
  have hword : ¬ (s = "content".toList ∨ s = "auto".toList) := by
    rintro (rfl | rfl)
    · rw [hcontent] at hread
      cases hread
    · rw [hauto] at hread
      cases hread
  exact (if_neg hword).trans (hread ▸ rfl)

/-- The units that a number may have, and the track sizes that they make of it. -/
inductive IsUnit : String → (Float → TrackSize Float) → Prop
  | pixels : IsUnit "px" fixed
  | share : IsUnit "fr" flex

namespace IsUnit

variable {unit : String} {make : Float → TrackSize Float}

theorem toList_eq (hunit : IsUnit unit make) : unit.toList = ['p', 'x'] ∨ unit.toList = ['f', 'r'] := by
  cases hunit
  · exact .inl rfl
  · exact .inr rfl

theorem all_isPlain (hunit : IsUnit unit make) : unit.toList.all isPlain = true := by
  rcases hunit.toList_eq with h | h <;> rw [h] <;> decide

theorem head (hunit : IsUnit unit make) : ∀ c ∈ unit.toList.head?, isDecimalDigit c = false ∧ c ≠ '.' := by
  rcases hunit.toList_eq with h | h <;> rw [h, List.head?_cons] <;> rintro _ ⟨⟩ <;> decide +kernel

theorem ofChars?_eq_some (hunit : IsUnit unit make) (hread : Numeral.read? s = some (numeral, unit.toList)) :
    ofChars? s = some (make numeral.toFloat) := by
  cases hunit <;> exact ofChars?_of_read? hread

end IsUnit

theorem all_isPlain_written {negative : Bool} {whole fraction : List Char}
    (hall : ∀ c ∈ whole ++ fraction, c.isDigit = true) :
    (Numeral.written negative whole fraction).all isPlain = true := by
  have hdigits : (whole ++ fraction).all isPlain = true :=
    List.all_eq_true.mpr fun c hc => isPlain_of_isDigit (hall c hc)
  have hpoint : isPlain '.' = true := by decide
  have hminus : isPlain '-' = true := by decide
  rw [List.all_append, Bool.and_eq_true] at hdigits
  unfold Numeral.written
  split_ifs <;> simp only [List.all_append, List.all_cons, List.all_nil, hdigits, hpoint, hminus, Bool.and_self]

theorem ofText?_of_written {unit text : String} {make : Float → TrackSize Float} {negative : Bool}
    {whole fraction : List Char} (hunit : IsUnit unit make)
    (htext : text.toList = Numeral.written negative whole fraction ++ unit.toList) (hwhole : whole ≠ [])
    (hall : ∀ c ∈ whole ++ fraction, c.isDigit = true) :
    ofText? text = some (make (Numeral.ofDigits negative whole fraction 0).toFloat) := by
  have hdigits : ∀ c ∈ whole ++ fraction, isDecimalDigit c = true := fun c hc =>
    isDecimalDigit_of_isDigit (hall c hc)
  rw [List.forall_mem_append] at hdigits
  have hplain : (Numeral.written negative whole fraction ++ unit.toList).all isPlain = true := by
    rw [List.all_append, all_isPlain_written hall, hunit.all_isPlain, Bool.and_self]
  rw [ofText?_eq_ofChars? htext hplain]
  exact hunit.ofChars?_eq_some (Numeral.read?_written hwhole hdigits.1 hdigits.2 hunit.head)

theorem ofText?_of_exponent {unit text : String} {make : Float → TrackSize Float} {negative : Bool} {first : Char}
    {more tail : List Char} (hunit : IsUnit unit make)
    (htext : text.toList = Numeral.written negative [first] more ++ ('e' :: tail ++ unit.toList))
    (hall : ∀ c ∈ first :: more, c.isDigit = true) (htail : ∀ c ∈ tail, c.isDigit = true ∨ c = '+' ∨ c = '-') :
    ofText? text = none := by
  have hdigits : ∀ c ∈ first :: more, isDecimalDigit c = true := fun c hc =>
    isDecimalDigit_of_isDigit (hall c hc)
  rw [List.forall_mem_cons] at hdigits
  have htailPlain : tail.all isPlain = true := by
    refine List.all_eq_true.mpr fun c hc => ?_
    rcases htail c hc with hdigit | rfl | rfl
    · exact isPlain_of_isDigit hdigit
    · decide
    · decide
  have hplain : (Numeral.written negative [first] more ++ ('e' :: tail ++ unit.toList)).all isPlain = true := by
    rw [List.all_append, all_isPlain_written hall, List.all_append, List.all_cons, htailPlain, hunit.all_isPlain]
    rfl
  have hread : Numeral.read? (Numeral.written negative [first] more ++ ('e' :: tail ++ unit.toList)) =
      some (Numeral.ofDigits negative [first] more 0, 'e' :: tail ++ unit.toList) := by
    refine Numeral.read?_written (List.cons_ne_nil _ _) (List.forall_mem_singleton.mpr hdigits.1) hdigits.2 ?_
    rintro _ ⟨⟩
    decide +kernel
  rw [ofText?_eq_ofChars? htext hplain, ofChars?_of_read? hread]
  rfl

theorem ofText?_word {unit word : String} {make : Float → TrackSize Float} (hunit : IsUnit unit make)
    (hplain : word.toList.all isPlain = true)
    (hnone : ofChars? (word.toList ++ ['p', 'x']) = none ∧ ofChars? (word.toList ++ ['f', 'r']) = none) :
    ofText? (word ++ unit) = none := by
  have hplain : (word.toList ++ unit.toList).all isPlain = true := by
    rw [List.all_append, hplain, hunit.all_isPlain, Bool.and_self]
  rw [ofText?_eq_ofChars? String.toList_append hplain]
  rcases hunit.toList_eq with h | h
  · exact h ▸ hnone.1
  · exact h ▸ hnone.2

/-- A decimal number with its unit reads as the number if it is written by places, and else as nothing. -/
theorem ofText?_decimal {unit : String} {make : Float → TrackSize Float} (hunit : IsUnit unit make)
    (negative : Bool) {d : Decimal} (hd : 0 < d.coefficient) :
    ofText? (signed negative (d.text roundedStyle) ++ unit) =
      if -4 ≤ d.leadingExponent ∧ d.leadingExponent ≤ 5
      then some (make (Numeral.toFloat ⟨negative, d.coefficient, d.exponent⟩)) else none := by
  split_ifs with hplaces
  · obtain ⟨whole, fraction, htext, hwhole, hall, hsize⟩ := Decimal.exists_written_eq_text hd hplaces
    have htext := toList_signed negative (htext.trans (List.append_nil _).symm)
    rw [ofText?_of_written hunit (by rw [String.toList_append, htext, List.append_nil]) hwhole hall]
    congr 2
    exact Numeral.toFloat_congr rfl hsize
  · obtain ⟨first, more, tail, htext, hall, htail⟩ := Decimal.exists_written_eq_text_of_exponent hd hplaces
    have htext := toList_signed negative htext
    exact ofText?_of_exponent hunit (by rw [String.toList_append, htext, List.append_assoc]) hall htail

/-- The text of a number with its unit reads as what the number's text reads as. -/
theorem ofText?_append_unit {unit : String} {make : Float → TrackSize Float} (hunit : IsUnit unit make) (x : Float) :
    ofText? (roundedText x ++ unit) = (readBack? x).map make := by
  cases hx : Binary64.ofFloat x with
  | nan =>
    simp only [roundedText, readBack?, hx, Option.map_none]
    exact ofText?_word hunit (by decide) ⟨rfl, rfl⟩
  | infinite negative =>
    simp only [roundedText, readBack?, hx, Option.map_none]
    cases negative with
    | false => exact ofText?_word hunit (by decide) ⟨rfl, rfl⟩
    | true => exact ofText?_word hunit (by decide) ⟨rfl, rfl⟩
  | finite negative mantissa exponent =>
    cases mantissa with
    | zero =>
      simp only [roundedText, readBack?, hx, Option.map_some]
      have htext : (signed negative "0").toList = Numeral.written negative ['0'] [] ++ [] := toList_signed negative rfl
      have hall : ∀ c ∈ ['0'] ++ ([] : List Char), c.isDigit = true := List.forall_mem_singleton.mpr rfl
      refine ofText?_of_written hunit ?_ (List.cons_ne_nil _ _) hall
      rw [String.toList_append, htext, List.append_nil]
    | succ mantissa =>
      obtain ⟨hnum, hden⟩ := quotientOf_pos exponent mantissa.succ_pos
      have hbounds := Decimal.coefficient_rounded_bounds 5 hnum hden
      have hcoefficient := (Nat.pow_pos (by decide)).trans_le hbounds.1
      simp only [roundedText, readBack?, hx]
      rw [ofText?_decimal hunit negative hcoefficient, apply_ite (Option.map make), Option.map_some,
        Option.map_none]

theorem ofText?_text (t : TrackSize Float) :
    ofText? t.text = match t with
      | fixed x => (readBack? x).map fixed
      | flex x => (readBack? x).map flex
      | content => some content := by
  cases t with
  | fixed x => exact ofText?_append_unit .pixels x
  | flex x => exact ofText?_append_unit .share x
  | content => exact (ofText?_eq_ofChars? rfl (by decide)).trans (if_pos (.inl rfl))

/--
A track size reads back from its text exactly if it has no number, or one that is the double nearest to a number
of six digits between a ten-thousandth and a million, or zero.
-/
theorem ofText?_text_eq_self_iff (t : TrackSize Float) :
    ofText? t.text = some t ↔ t = content ∨ ∃ x, IsShort x ∧ (t = fixed x ∨ t = flex x) := by
  have hself (x : Float) : readBack? x = some x ↔ IsShort x := ⟨isShort_of_readBack?_eq, readBack?_eq_of_isShort⟩
  rw [ofText?_text]
  cases t with
  | fixed x => simp [← hself]
  | flex x => simp [← hself]
  | content => simp

/-- Six digits are not enough to write a million by places, and no exponent is read. -/
theorem ofText?_text_million : ofText? (fixed (Binary64.nearest false 1000000 1)).text = none := by
  have hread : readBack? (Binary64.nearest false 1000000 1) = none :=
    Option.isNone_iff_eq_none.mp (by decide +kernel)
  simp only [ofText?_text, hread, Option.map_none]

end TrackSize

end RegionGrid
