import RegionGrid.Number.Numeral
import RegionGrid.Proofs.Number.Decimal
import RegionGrid.Proofs.Text.LowerCase
import RegionGrid.Proofs.Text.Trim
import RegionGrid.Proofs.Text.Words

/-!
# The language of whole numbers

The texts that write a whole number, as a grammar: digits of any script with single underscores between them,
a sign or none before them, and white space around that. A text is read as a whole number exactly if it is of
this form, and the limit to what is read counts the digits alone. The digits that a natural number has in
decimal write it.
-/

namespace RegionGrid

variable {c : Char} {text rest digits : List Char} {n : ℤ}

/-- Digits with single underscores between them, and the digits alone. -/
inductive IsGrouped : List Char → List Char → Prop
  | last {c : Char} (hc : isDecimalDigit c = true) : IsGrouped [c] [c]
  | next {c : Char} {text digits : List Char} (hc : isDecimalDigit c = true) (htext : IsGrouped text digits) :
      IsGrouped (c :: text) (c :: digits)
  | apart {c : Char} {text digits : List Char} (hc : isDecimalDigit c = true) (htext : IsGrouped text digits) :
      IsGrouped (c :: '_' :: text) (c :: digits)

/-- A sign or none, and whether the number is negated. -/
inductive IsSign : List Char → Bool → Prop
  | none : IsSign [] false
  | plus : IsSign ['+'] false
  | minus : IsSign ['-'] true

/-- The text writes the number with the digits. -/
inductive WritesWhole : List Char → List Char → ℤ → Prop
  | intro {before sign grouped digits after : List Char} {negative : Bool}
      (hbefore : ∀ c ∈ before, isNumberBlank c = true) (hsign : IsSign sign negative)
      (hgrouped : IsGrouped grouped digits) (hafter : ∀ c ∈ after, isNumberBlank c = true) :
      WritesWhole (before ++ (sign ++ grouped) ++ after) digits
        (if negative then -(digitsValue digits : ℤ) else digitsValue digits)

/-! ### Groups of digits -/

theorem IsGrouped.exists_head (hgrouped : IsGrouped text digits) :
    ∃ c rest, text = c :: rest ∧ isDecimalDigit c = true := by
  cases hgrouped with
  | last hc => exact ⟨_, _, rfl, hc⟩
  | next hc => exact ⟨_, _, rfl, hc⟩
  | apart hc => exact ⟨_, _, rfl, hc⟩

theorem IsGrouped.digit_or_underscore (hgrouped : IsGrouped text digits) :
    ∀ c ∈ text, isDecimalDigit c = true ∨ c = '_' := by
  induction hgrouped with
  | last hc => exact List.forall_mem_singleton.mpr (.inl hc)
  | next hc _ ih => exact List.forall_mem_cons.mpr ⟨.inl hc, ih⟩
  | apart hc _ ih => exact List.forall_mem_cons.mpr ⟨.inl hc, List.forall_mem_cons.mpr ⟨.inr rfl, ih⟩⟩

theorem isDecimalDigit_underscore : isDecimalDigit '_' = false := by decide +kernel

theorem IsGrouped.countP_eq (hgrouped : IsGrouped text digits) : text.countP isDecimalDigit = digits.length := by
  induction hgrouped with
  | last hc => simp [hc]
  | next hc _ ih => simp [hc, ih]
  | apart hc _ ih => simp [hc, ih, isDecimalDigit_underscore]

theorem isGrouped_self (hne : digits ≠ []) (hdigits : ∀ c ∈ digits, isDecimalDigit c = true) :
    IsGrouped digits digits := by
  induction digits with
  | nil => exact absurd rfl hne
  | cons c digits ih =>
    obtain ⟨hc, hdigits⟩ := List.forall_mem_cons.mp hdigits
    cases digits with
    | nil => exact .last hc
    | cons d digits => exact .next hc (ih (List.cons_ne_nil _ _) hdigits)

theorem IsGrouped.ungrouped?_eq (hgrouped : IsGrouped text digits) :
    ungrouped? isDecimalDigit text = some digits := by
  induction hgrouped with
  | last hc => rw [ungrouped?, if_pos hc]
  | @next c text digits hc htext ih =>
    obtain ⟨d, rest, rfl, hd⟩ := htext.exists_head
    have hunderscore : d ≠ '_' := by
      rintro rfl
      rw [isDecimalDigit_underscore] at hd
      cases hd
    rw [ungrouped?, if_pos hc, ih, Option.map_some]
    · exact List.cons_ne_nil _ _
    · rintro _ heq
      exact hunderscore (List.cons.inj heq).1
  | apart hc _ ih => rw [ungrouped?, if_pos hc, ih, Option.map_some]

theorem isGrouped_of_ungrouped?_eq (htext : ungrouped? isDecimalDigit text = some digits) :
    IsGrouped text digits := by
  fun_induction ungrouped? isDecimalDigit text generalizing digits with
  | case1 => cases htext
  | case2 c hc =>
    cases htext
    exact .last hc
  | case3 => cases htext
  | case4 c rest hc ih =>
    obtain ⟨more, hmore, rfl⟩ := Option.map_eq_some_iff.mp htext
    exact .apart hc (ih hmore)
  | case5 => cases htext
  | case6 c rest _ _ hc ih =>
    obtain ⟨more, hmore, rfl⟩ := Option.map_eq_some_iff.mp htext
    exact .next hc (ih hmore)
  | case7 => cases htext

theorem ungrouped?_eq_some_iff : ungrouped? isDecimalDigit text = some digits ↔ IsGrouped text digits :=
  ⟨isGrouped_of_ungrouped?_eq, IsGrouped.ungrouped?_eq⟩

/-! ### Reading -/

theorem exists_isSign (text : List Char) :
    ∃ sign, text = sign ++ (splitSign text).2 ∧ IsSign sign (splitSign text).1 := by
  unfold splitSign
  split
  · exact ⟨_, rfl, .minus⟩
  · exact ⟨_, rfl, .plus⟩
  · exact ⟨_, rfl, .none⟩

theorem IsSign.splitSign_append {sign : List Char} {negative : Bool} (hsign : IsSign sign negative)
    (hgrouped : IsGrouped text digits) : splitSign (sign ++ text) = (negative, text) := by
  cases hsign with
  | none =>
    obtain ⟨c, rest, rfl, hc⟩ := hgrouped.exists_head
    have hsigns : isDecimalDigit '-' = false ∧ isDecimalDigit '+' = false := by decide +kernel
    rw [List.nil_append]
    unfold splitSign
    split
    · next heq =>
      rw [(List.cons.inj heq).1, hsigns.1] at hc
      cases hc
    · next heq =>
      rw [(List.cons.inj heq).1, hsigns.2] at hc
      cases hc
    · rfl
  | plus => rfl
  | minus => rfl

theorem not_isNumberBlank_of_isSign {sign : List Char} {negative : Bool} (hsign : IsSign sign negative) :
    ∀ c ∈ sign, isNumberBlank c = false := by
  cases hsign with
  | none => exact List.forall_mem_nil _
  | plus => exact List.forall_mem_singleton.mpr rfl
  | minus => exact List.forall_mem_singleton.mpr rfl

theorem isBlank_of_isNumberBlank (hc : isNumberBlank c = true) : isBlank c = true := by
  rw [isNumberBlank, Bool.and_eq_true] at hc
  exact hc.1

theorem isNumberBlank_eq_false_of_isDecimalDigit (hc : isDecimalDigit c = true) : isNumberBlank c = false := by
  by_contra hblank
  rw [Bool.not_eq_false] at hblank
  rw [isDecimalDigit_eq_false_of_isBlank (isBlank_of_isNumberBlank hblank)] at hc
  cases hc

theorem WritesWhole.splitSign_trimBy (hwrites : WritesWhole text digits n) :
    ∃ negative grouped, splitSign (Chars.trimBy isNumberBlank text) = (negative, grouped) ∧
      IsGrouped grouped digits ∧ n = if negative then -(digitsValue digits : ℤ) else digitsValue digits := by
  cases hwrites with
  | @intro before sign grouped digits after negative hbefore hsign hgrouped hafter =>
    refine ⟨negative, grouped, ?_, hgrouped, rfl⟩
    have hcore : ∀ c ∈ sign ++ grouped, isNumberBlank c = false := by
      refine List.forall_mem_append.mpr ⟨not_isNumberBlank_of_isSign hsign, fun c hc => ?_⟩
      rcases hgrouped.digit_or_underscore c hc with hdigit | rfl
      · exact isNumberBlank_eq_false_of_isDecimalDigit hdigit
      · rfl
    rw [Chars.trimBy_append_right hafter, Chars.trimBy_append_left hbefore, Chars.trimBy_eq_self hcore,
      hsign.splitSign_append hgrouped]

theorem WritesWhole.wholeNumber?_eq (hwrites : WritesWhole text digits n) : wholeNumber? text = some n := by
  obtain ⟨negative, grouped, hsplit, hgrouped, rfl⟩ := hwrites.splitSign_trimBy
  simp only [wholeNumber?, hsplit, ungrouped?_eq_some_iff.mpr hgrouped, Option.map_some]

theorem exists_writesWhole_of_wholeNumber?_eq (htext : wholeNumber? text = some n) :
    ∃ digits, WritesWhole text digits n := by
  obtain ⟨before, after, hends, hbefore, hafter⟩ := Chars.exists_eq_append_trimBy isNumberBlank text
  obtain ⟨sign, hsigned, hsign⟩ := exists_isSign (Chars.trimBy isNumberBlank text)
  simp only [wholeNumber?, Option.map_eq_some_iff] at htext
  obtain ⟨digits, hdigits, rfl⟩ := htext
  generalize splitSign (Chars.trimBy isNumberBlank text) = split at *
  rw [hends, hsigned]
  exact ⟨digits, .intro hbefore hsign (ungrouped?_eq_some_iff.mp hdigits) hafter⟩

theorem WritesWhole.digitCount_eq (hwrites : WritesWhole text digits n) : digitCount text = digits.length := by
  obtain ⟨negative, grouped, hsplit, hgrouped, -⟩ := hwrites.splitSign_trimBy
  have hall : grouped.takeWhile (fun c => isDecimalDigit c || c == '_') = grouped :=
    List.takeWhile_eq_self_iff.mpr fun c hc => by simpa using hgrouped.digit_or_underscore c hc
  simp only [digitCount, hsplit, hall, hgrouped.countP_eq]

/-- The numbers that are read are those that are written with no more digits than the limit. -/
theorem shortWholeNumber?_eq_some_iff :
    shortWholeNumber? text = some n ↔ ∃ digits, WritesWhole text digits n ∧ digits.length ≤ mostDigits := by
  constructor
  · intro htext
    obtain ⟨hshort, hwhole⟩ := Option.ite_none_left_eq_some.mp htext
    obtain ⟨digits, hwrites⟩ := exists_writesWhole_of_wholeNumber?_eq hwhole
    rw [hwrites.digitCount_eq] at hshort
    exact ⟨digits, hwrites, not_lt.mp hshort⟩
  · rintro ⟨digits, hwrites, hshort⟩
    rw [shortWholeNumber?, if_neg (not_lt.mpr (hwrites.digitCount_eq ▸ hshort)), hwrites.wholeNumber?_eq]

/-! ### Decimal digits -/

theorem writesWhole_toDigits (n : ℕ) : WritesWhole (Nat.toDigits 10 n) (Nat.toDigits 10 n) n := by
  have hdigits : ∀ c ∈ Nat.toDigits 10 n, isDecimalDigit c = true := fun c hc =>
    isDecimalDigit_of_isDigit (Nat.isDigit_of_mem_toDigits (by decide) le_rfl hc)
  have hgrouped := isGrouped_self (List.length_pos_iff.mp Nat.length_toDigits_pos) hdigits
  have hwrites := WritesWhole.intro (List.forall_mem_nil _) .none hgrouped (List.forall_mem_nil _)
  simpa [digitsValue_toDigits] using hwrites

theorem length_toDigits_le_iff_isWritable (n : ℕ) :
    (Nat.toDigits 10 n).length ≤ mostDigits ↔ isWritable n = true := by
  rw [Nat.length_toDigits_le_iff (by decide) (by decide), isWritable, decide_eq_true_iff, Int.natAbs_natCast,
    Nat.pow_eq]

theorem shortWholeNumber?_toDigits (n : ℕ) :
    shortWholeNumber? (Nat.toDigits 10 n) = if isWritable n then some (n : ℤ) else none := by
  have hwrites := writesWhole_toDigits n
  rw [shortWholeNumber?, hwrites.digitCount_eq, hwrites.wholeNumber?_eq]
  simp only [← not_le, length_toDigits_le_iff_isWritable, ite_not]

/-! ### Characters -/

theorem WritesWhole.standsApart (hwrites : WritesWhole text digits n) : ∀ c ∈ text, StandsApart c := by
  have hblank {c : Char} (hc : isNumberBlank c = true) : StandsApart c :=
    standsApart_of_isBlank (isBlank_of_isNumberBlank hc)
  cases hwrites with
  | intro hbefore hsign hgrouped hafter =>
    simp only [List.forall_mem_append]
    refine ⟨⟨fun c hc => hblank (hbefore c hc), ?_, fun c hc => ?_⟩, fun c hc => hblank (hafter c hc)⟩
    · cases hsign with
      | none => exact List.forall_mem_nil _
      | plus => exact List.forall_mem_singleton.mpr (by decide)
      | minus => exact List.forall_mem_singleton.mpr (by decide)
    · rcases hgrouped.digit_or_underscore c hc with hdigit | rfl
      · exact standsApart_of_isDecimalDigit hdigit
      · decide

end RegionGrid
