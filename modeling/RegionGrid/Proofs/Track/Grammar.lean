import RegionGrid.Value.Number
import RegionGrid.Proofs.Number.Closest
import RegionGrid.Proofs.Text.LowerCase
import RegionGrid.Proofs.Text.Trim
import RegionGrid.Proofs.Track.Text

/-!
# The language of track sizes

The texts that write a track size, as a grammar: a word for the content, a numeral with the unit of shares, or
one with the unit of pixels or none. A text is read as a track size exactly if it is of this form once white
space at its ends is taken away and its letters are in lower case, and a number in it stands for the double
closest to it. Only ASCII has a say in that: no other letter has one of the grammar as its lower case.
-/

namespace RegionGrid

namespace Numeral

variable {s rest : List Char} {n : Numeral}

/-- A minus sign or none, digits of any script, and perhaps a point with more of them. -/
inductive IsWritten : List Char → Numeral → Prop
  | intro (negative : Bool) {whole fraction : List Char} (hwhole : whole ≠ [])
      (hdigits : ∀ c ∈ whole ++ fraction, isDecimalDigit c = true) :
      IsWritten (written negative whole fraction) (ofDigits negative whole fraction 0)

theorem IsWritten.read?_append {text : List Char} (htext : IsWritten text n)
    (hrest : ∀ c ∈ rest.head?, isDecimalDigit c = false ∧ c ≠ '.') : read? (text ++ rest) = some (n, rest) := by
  cases htext with
  | intro negative hwhole hdigits =>
    rw [List.forall_mem_append] at hdigits
    exact read?_written hwhole hdigits.1 hdigits.2 hrest

theorem isWritten_whole (negative : Bool) {whole : List Char} (hwhole : whole ≠ [])
    (hdigits : ∀ c ∈ whole, isDecimalDigit c = true) :
    IsWritten ((if negative then ['-'] else []) ++ whole) (ofDigits negative whole [] 0) := by
  have hwritten : written negative whole [] = (if negative then ['-'] else []) ++ whole := by
    rw [written, if_pos rfl, List.append_nil]
  rw [← hwritten]
  apply IsWritten.intro negative hwhole
  rwa [List.append_nil]

theorem eq_sign_append (s : List Char) :
    s = (if s.head? == some '-' then ['-'] else []) ++ if s.head? == some '-' then s.tail else s := by
  cases hsign : s.head? == some '-' with
  | false => rfl
  | true =>
    obtain ⟨tail, rfl⟩ := List.head?_eq_some_iff.mp (beq_iff_eq.mp hsign)
    rfl

/-- What is read as a numeral is written at the start of the text. -/
theorem exists_isWritten_of_read? (hread : read? s = some (n, rest)) :
    ∃ text, IsWritten text n ∧ s = text ++ rest := by
  have hs := eq_sign_append s
  simp only [read?, List.span_eq_takeWhile_dropWhile] at hread
  generalize (s.head? == some '-') = negative at *
  generalize (if negative then s.tail else s) = unsigned at *
  have hsplit := List.takeWhile_append_dropWhile (p := isDecimalDigit) (l := unsigned)
  have hwholeDigits : ∀ c ∈ unsigned.takeWhile isDecimalDigit, isDecimalDigit c = true := fun c hc =>
    List.mem_takeWhile_imp hc
  generalize unsigned.takeWhile isDecimalDigit = whole at *
  generalize unsigned.dropWhile isDecimalDigit = tail at *
  split at hread
  · cases hread
  next hwhole =>
    rw [List.isEmpty_iff] at hwhole
    split at hread
    next more =>
      have hsplit' := List.takeWhile_append_dropWhile (p := isDecimalDigit) (l := more)
      have hfractionDigits : ∀ c ∈ more.takeWhile isDecimalDigit, isDecimalDigit c = true := fun c hc =>
        List.mem_takeWhile_imp hc
      generalize more.takeWhile isDecimalDigit = fraction at *
      split at hread
      · -- A point without a digit behind it is not part of the numeral.
        cases hread
        exact ⟨_, isWritten_whole negative hwhole hwholeDigits, by rw [hs, ← hsplit, List.append_assoc]⟩
      next hfraction =>
        cases hread
        rw [List.isEmpty_iff] at hfraction
        refine ⟨_, .intro negative hwhole (List.forall_mem_append.mpr ⟨hwholeDigits, hfractionDigits⟩), ?_⟩
        rw [hs, ← hsplit, written, if_neg hfraction]
        simp [hsplit']
    next =>
      cases hread
      exact ⟨_, isWritten_whole negative hwhole hwholeDigits, by rw [hs, ← hsplit, List.append_assoc]⟩

theorem read?_eq_none (hs : ∀ c ∈ s.head?, c ≠ '-' ∧ isDecimalDigit c = false) : read? s = none := by
  cases s with
  | nil => rfl
  | cons c s =>
    obtain ⟨hminus, hdigit⟩ := hs c rfl
    simp [read?, hminus, hdigit, List.span_eq_takeWhile_dropWhile]

end Numeral

namespace TrackSize

variable {s text gap : List Char} {unit : String} {make : Float → TrackSize Float} {size size' : TrackSize Float}

/-- The texts of track sizes, in lower case and without white space at their ends. -/
inductive Writes : List Char → TrackSize Float → Prop
  | content : Writes "content".toList content
  | auto : Writes "auto".toList content
  | share {gap : List Char} (hgap : ∀ c ∈ gap, isBlank c = true) : Writes (gap ++ "fr".toList) (flex 1.0)
  | measured {unit : String} {make : Float → TrackSize Float} (hunit : IsUnit unit make) {text gap : List Char}
      {n : Numeral} {x : Float} (htext : Numeral.IsWritten text n) (hx : Binary64.IsClosest n.negative n.size x)
      (hgap : ∀ c ∈ gap, isBlank c = true) : Writes (text ++ (gap ++ unit.toList)) (make x)
  | bare {text : List Char} {n : Numeral} {x : Float} (htext : Numeral.IsWritten text n)
      (hx : Binary64.IsClosest n.negative n.size x) : Writes text (fixed x)

theorem IsUnit.head_append (hunit : IsUnit unit make) (hgap : ∀ c ∈ gap, isBlank c = true) :
    ∀ c ∈ (gap ++ unit.toList).head?, isDecimalDigit c = false ∧ c ≠ '.' := by
  cases gap with
  | nil => exact hunit.head
  | cons c gap =>
    rw [List.forall_mem_cons] at hgap
    rintro _ ⟨⟩
    refine ⟨isDecimalDigit_eq_false_of_isBlank hgap.1, ?_⟩
    rintro rfl
    cases hgap.1

theorem IsUnit.dropWhile_append (hunit : IsUnit unit make) (hgap : ∀ c ∈ gap, isBlank c = true) :
    (gap ++ unit.toList).dropWhile isBlank = unit.toList := by
  rw [List.dropWhile_append_of_pos hgap]
  rcases hunit.toList_eq with h | h <;> rw [h] <;> rfl

theorem Writes.ofChars?_eq_some (hwrites : Writes s size) : ofChars? s = some size := by
  cases hwrites with
  | content => rfl
  | auto => rfl
  | @share gap hgap =>
    have hword : ¬ (gap ++ "fr".toList = "content".toList ∨ gap ++ "fr".toList = "auto".toList) := by
      rintro (heq | heq) <;> simpa using congrArg List.getLast? heq
    have hread : Numeral.read? (gap ++ "fr".toList) = none := by
      apply Numeral.read?_eq_none
      intro c hc
      refine ⟨?_, (IsUnit.share.head_append hgap c hc).1⟩
      rintro rfl
      cases gap with
      | nil => cases hc
      | cons c gap =>
        cases hc
        cases hgap _ List.mem_cons_self
    rw [ofChars?, if_neg hword, hread]
    exact if_pos (IsUnit.share.dropWhile_append hgap)
  | measured hunit htext hx hgap =>
    rw [ofChars?_of_read? (htext.read?_append (hunit.head_append hgap)), hunit.dropWhile_append hgap,
      Numeral.isClosest_iff.mp hx]
    cases hunit <;> rfl
  | @bare _ n _ htext hx =>
    have hread : Numeral.read? (s ++ []) = some (n, []) := htext.read?_append nofun
    rw [List.append_nil] at hread
    rw [ofChars?_of_read? hread, Numeral.isClosest_iff.mp hx]
    rfl

/-- A text without white space at its end is a track size only if it is written as one. -/
theorem Writes.of_ofChars? (hlast : ∀ c ∈ s.getLast?, isBlank c = false) (hsome : ofChars? s = some size) :
    Writes s size := by
  by_cases hword : s = "content".toList ∨ s = "auto".toList
  · rw [ofChars?, if_pos hword] at hsome
    cases hsome
    rcases hword with rfl | rfl
    · exact .content
    · exact .auto
  · cases hread : Numeral.read? s with
    | none =>
      rw [ofChars?, if_neg hword, hread] at hsome
      obtain ⟨hfr, hsize⟩ := Option.ite_none_right_eq_some.mp hsome
      cases hsize
      rw [← List.takeWhile_append_dropWhile (p := isBlank) (l := s), hfr]
      exact .share fun c hc => List.mem_takeWhile_imp hc
    | some read =>
      obtain ⟨n, rest⟩ := read
      obtain ⟨text, htext, rfl⟩ := Numeral.exists_isWritten_of_read? hread
      rw [ofChars?_of_read? hread] at hsome
      have hsplit := List.takeWhile_append_dropWhile (p := isBlank) (l := rest)
      have hgap : ∀ c ∈ rest.takeWhile isBlank, isBlank c = true := fun c hc => List.mem_takeWhile_imp hc
      have hx := Numeral.isClosest_iff (n := n).mpr rfl
      split at hsome
      next hnil =>
        cases hsome
        rw [List.dropWhile_eq_nil_iff] at hnil
        have hrest : rest = [] := by
          by_contra hne
          rw [List.getLast?_append_of_ne_nil _ hne, List.getLast?_eq_some_getLast hne] at hlast
          have hnot := hlast _ rfl
          rw [hnil _ (List.getLast_mem hne)] at hnot
          cases hnot
        rw [hrest, List.append_nil]
        exact .bare htext hx
      next hpx =>
        cases hsome
        rw [← hsplit, hpx]
        exact .measured .pixels htext hx hgap
      next hfr =>
        cases hsome
        rw [← hsplit, hfr]
        exact .measured .share htext hx hgap
      · cases hsome

theorem ofChars?_eq_some_iff (hlast : ∀ c ∈ s.getLast?, isBlank c = false) :
    ofChars? s = some size ↔ Writes s size :=
  ⟨Writes.of_ofChars? hlast, Writes.ofChars?_eq_some⟩

theorem standsApart_of_isWritten {n : Numeral} (htext : Numeral.IsWritten text n) : ∀ c ∈ text, StandsApart c := by
  cases htext with
  | intro negative hwhole hdigits =>
    intro c hc
    have hc' : isDecimalDigit c = true ∨ c = '-' ∨ c = '.' := by
      rw [List.forall_mem_append] at hdigits
      simp only [Numeral.written, List.mem_append] at hc
      split_ifs at hc <;> grind
    rcases hc' with hdigit | rfl | rfl
    · exact standsApart_of_isDecimalDigit hdigit
    · decide
    · decide

theorem Writes.standsApart (hwrites : Writes s size) : ∀ c ∈ s, StandsApart c := by
  have hunits {unit : String} {make : Float → TrackSize Float} (hunit : IsUnit unit make) :
      ∀ c ∈ unit.toList, StandsApart c := by
    rcases hunit.toList_eq with h | h <;> rw [h] <;> exact List.all_iff_forall_prop.mp (by decide)
  cases hwrites with
  | content => exact List.all_iff_forall_prop.mp (by decide)
  | auto => exact List.all_iff_forall_prop.mp (by decide)
  | share hgap => exact List.forall_mem_append.mpr ⟨fun c hc => standsApart_of_isBlank (hgap c hc), hunits .share⟩
  | measured hunit htext hx hgap =>
    simp only [List.forall_mem_append]
    exact ⟨standsApart_of_isWritten htext, fun c hc => standsApart_of_isBlank (hgap c hc), hunits hunit⟩
  | bare htext hx => exact standsApart_of_isWritten htext

theorem ofText?_eq_some_iff {text : String} :
    ofText? text = some size ↔ Writes (lowerCase (trim text)).toList size := by
  have hlast : ∀ c ∈ ((Chars.trim text.toList).map Char.toLower).getLast?, isBlank c = false := by
    rw [← Chars.trim_map_toLower]
    exact Chars.getLast?_trim _
  rw [ofText?, ofChars?_eq_some_iff hlast, lowerCase, trim, String.toList_ofList, String.toList_ofList]
  -- Whichever of the two lower cases writes a size, that it does so shows that they are the same.
  constructor
  · intro hwrites
    rwa [Chars.lowerAfter_eq_map_toLower (.inl hwrites.standsApart)]
  · intro hwrites
    rwa [← Chars.lowerAfter_eq_map_toLower (.inr hwrites.standsApart)]

theorem ofValue_string_eq_ok_iff {text : String} : ofValue (.string text) = .ok size ↔ ofText? text = some size := by
  simp only [ofValue]
  cases ofText? text <;> simp

/-- The same text with letters of ASCII in upper case and white space around it. -/
inductive Restyles : String → String → Prop
  | intro {text text' before after : List Char} (hcase : List.Forall₂ (fun c d => d = c ∨ d = c.toUpper) text text')
      (hbefore : ∀ c ∈ before, isBlank c = true) (hafter : ∀ c ∈ after, isBlank c = true) :
      Restyles (String.ofList text) (String.ofList (before ++ text' ++ after))

theorem Restyles.ofText?_eq {s s' : String} (hstyle : Restyles s s') : ofText? s' = ofText? s := by
  cases hstyle with
  | intro hcase hbefore hafter =>
    have hlower {text text' : List Char} (hcase : List.Forall₂ (fun c d => d = c ∨ d = c.toUpper) text text') :
        text'.map Char.toLower = text.map Char.toLower := by
      induction hcase with
      | nil => rfl
      | cons hchar _ ih =>
        rw [List.map_cons, List.map_cons, ih]
        rcases hchar with rfl | rfl
        · rfl
        · rw [Char.toLower_toUpper_eq_toLower]
    simp only [ofText?, String.toList_ofList]
    rw [Chars.trim_append_blank hafter, Chars.trim_blank_append hbefore, ← Chars.trim_map_toLower,
      ← Chars.trim_map_toLower, hlower hcase]

/--
A text is read as what it writes, in lower case and without white space at its ends, and this is one track size
at most. Any other text is refused, and the refusal quotes it. Upper case and white space around a text only
change what is quoted.
-/
theorem ofValue_string (s : String) :
    (∀ size, ofValue (.string s) = .ok size ↔ Writes (lowerCase (trim s)).toList size) ∧
      (ofValue (.string s) = .error (.invalid (.string s)) ↔ ∀ size, ¬ Writes (lowerCase (trim s)).toList size) ∧
      (∀ text size size', Writes text size → Writes text size' → size = size') ∧
      ∀ s', Restyles s s' →
        ofValue (.string s') = (ofValue (.string s)).mapError fun _ => .invalid (.string s') := by
  simp only [← ofText?_eq_some_iff, ← Option.eq_none_iff_forall_ne_some]
  refine ⟨fun size => ofValue_string_eq_ok_iff, ?_, fun text size size' h h' => ?_, fun s' hstyle => ?_⟩
  · simp only [ofValue]
    cases ofText? s <;> simp
  · exact Option.some.inj (h.ofChars?_eq_some.symm.trans h'.ofChars?_eq_some)
  · simp only [ofValue, hstyle.ofText?_eq]
    cases ofText? s <;> rfl

theorem ofValue_string_padded :
    Restyles "\u0662 fr" "\t\u0662 FR " ∧
      Writes ['\u0662', ' ', 'f', 'r'] (flex (Numeral.toFloat ⟨false, 2, 0⟩)) ∧
      ofValue (.string "\t\u0662 FR ") = .ok (flex (Numeral.toFloat ⟨false, 2, 0⟩)) ∧
      ∀ size, Writes ['\u0662', ' ', 'f', 'r'] size → size = flex (Numeral.toFloat ⟨false, 2, 0⟩) := by
  obtain ⟨hreads, -, honly, hrestyled⟩ := ofValue_string "\u0662 fr"
  have hstyle : Restyles "\u0662 fr" "\t\u0662 FR " :=
    @Restyles.intro ['\u0662', ' ', 'f', 'r'] ['\u0662', ' ', 'F', 'R'] ['\t'] [' ']
      (.cons (.inl rfl) (.cons (.inl rfl) (.cons (.inr rfl) (.cons (.inr rfl) .nil))))
      (List.forall_mem_singleton.mpr rfl) (List.forall_mem_singleton.mpr rfl)
  have hwrites := (hreads (flex (Numeral.toFloat ⟨false, 2, 0⟩))).mp rfl
  exact ⟨hstyle, hwrites, (hrestyled _ hstyle).trans rfl, fun size hsize => honly _ _ _ hsize hwrites⟩

end TrackSize

end RegionGrid
