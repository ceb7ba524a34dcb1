import RegionGrid.CommandLine.Options
import RegionGrid.Proofs.Number.WholeNumber
import RegionGrid.Proofs.Text.Pieces

/-!
# The language of container sizes

A text writes the size of a container if its lower case has a single `x` with a whole number on either side.
Main statement: the program reads exactly these texts, up to the limit on digits; it tells the ones with a
negative number from all other texts that it refuses; and the decimal digits of two numbers with an `x` of
either case between them are read back as the two numbers.
-/

namespace RegionGrid

variable {s : List Char} {text : String} {width height : ℤ}

/-- Two whole numbers on the sides of the only `x` of a text, neither with more digits than are read. -/
inductive WritesSize : List Char → ℤ → ℤ → Prop
  | intro {before after widthDigits heightDigits : List Char} {width height : ℤ}
      (hbefore : 'x' ∉ before) (hafter : 'x' ∉ after)
      (hwidth : WritesWhole before widthDigits width) (hheight : WritesWhole after heightDigits height)
      (hshort : widthDigits.length ≤ mostDigits ∧ heightDigits.length ≤ mostDigits) :
      WritesSize (before ++ 'x' :: after) width height

theorem writesSize_iff : WritesSize s width height ↔ ∃ before after, s.splitOn 'x' = [before, after] ∧
    shortWholeNumber? before = some width ∧ shortWholeNumber? after = some height := by
  simp only [Chars.splitOn_eq_iff_isCut, Chars.isCut_pair_iff, shortWholeNumber?_eq_some_iff]
  constructor
  · rintro ⟨hbefore, hafter, hwidth, hheight, hshort⟩
    exact ⟨_, _, ⟨rfl, hbefore, hafter⟩, ⟨_, hwidth, hshort.1⟩, _, hheight, hshort.2⟩
  · rintro ⟨before, after, ⟨rfl, hbefore, hafter⟩, ⟨_, hwidth, hwidthShort⟩, _, hheight, hheightShort⟩
    exact .intro hbefore hafter hwidth hheight ⟨hwidthShort, hheightShort⟩

theorem WritesSize.standsApart (hwrites : WritesSize s width height) : ∀ c ∈ s, StandsApart c := by
  cases hwrites with
  | intro _ _ hwidth hheight _ =>
    have hseparator : StandsApart 'x' := by decide
    exact List.forall_mem_append.mpr
      ⟨hwidth.standsApart, List.forall_mem_cons.mpr ⟨hseparator, hheight.standsApart⟩⟩

/-- Lower case beyond ASCII makes no size of a text that is none without it. -/
theorem writesSize_lowerCase_iff : WritesSize (lowerCase text).toList width height ↔
    WritesSize (text.toList.map Char.toLower) width height := by
  rw [lowerCase, String.toList_ofList]
  constructor
  · intro hwrites
    rwa [← Chars.lowerAfter_eq_map_toLower (.inr hwrites.standsApart)]
  · intro hwrites
    rwa [Chars.lowerAfter_eq_map_toLower (.inl hwrites.standsApart)]

/-! ### Reading -/

theorem sizeOfText_of_writesSize (hwrites : WritesSize (lowerCase text).toList width height) :
    sizeOfText text =
      if width < 0 ∨ height < 0 then .error (.negative text) else .ok (width.toNat, height.toNat) := by
  obtain ⟨before, after, hsplit, hwidth, hheight⟩ := writesSize_iff.mp (writesSize_lowerCase_iff.mp hwrites)
  rw [List.splitOn_eq_splitOnP] at hsplit
  simp only [sizeOfText, hsplit, hwidth, hheight]

theorem sizeOfText_of_not_writesSize (hnone : ∀ width height, ¬ WritesSize (lowerCase text).toList width height) :
    sizeOfText text = .error (.malformed text) := by
  have hplain (width height : ℤ) : ¬ WritesSize (text.toList.map Char.toLower) width height :=
    writesSize_lowerCase_iff.not.mp (hnone width height)
  simp only [writesSize_iff, List.splitOn_eq_splitOnP] at hplain
  unfold sizeOfText
  split
  · next before after hsplit =>
    split
    · next width height hwidth hheight =>
      exact absurd ⟨before, after, hsplit, hwidth, hheight⟩ (hplain width height)
    · rfl
  · rfl

theorem exists_writesSize_or (text : String) :
    (∃ width height, WritesSize (lowerCase text).toList width height ∧ sizeOfText text =
        if width < 0 ∨ height < 0 then .error (.negative text) else .ok (width.toNat, height.toNat)) ∨
      (∀ width height, ¬ WritesSize (lowerCase text).toList width height) ∧
        sizeOfText text = .error (.malformed text) := by
  by_cases hsome : ∃ width height, WritesSize (lowerCase text).toList width height
  · obtain ⟨width, height, hwrites⟩ := hsome
    exact .inl ⟨width, height, hwrites, sizeOfText_of_writesSize hwrites⟩
  · have hnone : ∀ width height, ¬ WritesSize (lowerCase text).toList width height := fun width height hwrites =>
      hsome ⟨width, height, hwrites⟩
    exact .inr ⟨hnone, sizeOfText_of_not_writesSize hnone⟩

theorem sizeOfText_eq_ok_iff {width height : ℕ} :
    sizeOfText text = .ok (width, height) ↔ WritesSize (lowerCase text).toList width height := by
  constructor
  · intro hok
    obtain ⟨w, h, hwrites, hgiven⟩ | ⟨-, hgiven⟩ := exists_writesSize_or text
    · rw [hgiven] at hok
      split_ifs at hok with hnegative
      obtain ⟨hw, hh⟩ := Prod.mk.inj (Except.ok.inj hok)
      have hwidth : w = width := by omega
      have hheight : h = height := by omega
      rwa [← hwidth, ← hheight]
    · cases hgiven.symm.trans hok
  · intro hwrites
    rw [sizeOfText_of_writesSize hwrites, if_neg (by omega), Int.toNat_natCast, Int.toNat_natCast]

theorem sizeOfText_eq_negative_iff : sizeOfText text = .error (.negative text) ↔
    ∃ width height, WritesSize (lowerCase text).toList width height ∧ (width < 0 ∨ height < 0) := by
  constructor
  · intro herror
    obtain ⟨width, height, hwrites, hgiven⟩ | ⟨-, hgiven⟩ := exists_writesSize_or text
    · rw [hgiven] at herror
      split_ifs at herror with hnegative
      exact ⟨width, height, hwrites, hnegative⟩
    · cases hgiven.symm.trans herror
  · rintro ⟨width, height, hwrites, hnegative⟩
    rw [sizeOfText_of_writesSize hwrites, if_pos hnegative]

theorem sizeOfText_eq_malformed_iff : sizeOfText text = .error (.malformed text) ↔
    ∀ width height, ¬ WritesSize (lowerCase text).toList width height := by
  refine ⟨fun herror => ?_, sizeOfText_of_not_writesSize⟩
  obtain ⟨width, height, -, hgiven⟩ | ⟨hnone, -⟩ := exists_writesSize_or text
  · rw [hgiven] at herror
    split_ifs at herror
    cases herror
  · exact hnone

/-! ### Decimal digits -/

/-- Two numbers in decimal with a separator between them. -/
def sizeText (separator : Char) (width height : ℕ) : String :=
  String.ofList (Nat.toDigits 10 width ++ separator :: Nat.toDigits 10 height)

theorem map_toLower_toDigits (n : ℕ) : (Nat.toDigits 10 n).map Char.toLower = Nat.toDigits 10 n := by
  have hlower : ∀ c ∈ Nat.toDigits 10 n, c.toLower = c := fun c hc => by
    have hdigit : c.isDigit = true := Nat.isDigit_of_mem_toDigits (by decide) le_rfl hc
    apply Char.toLower_eq_of_not_isUpper
    simp [Char.isUpper, Char.isDigit, UInt32.le_iff_toNat_le] at hdigit ⊢
    omega
  exact (List.map_congr_left hlower).trans (List.map_id _)

theorem x_notMem_toDigits (n : ℕ) : 'x' ∉ Nat.toDigits 10 n := fun hx => by
  cases Nat.isDigit_of_mem_toDigits (by decide) le_rfl hx

theorem sizeOfText_sizeText_eq_ok_iff {separator : Char} (hseparator : separator.toLower = 'x')
    (width height : ℕ) : sizeOfText (sizeText separator width height) = .ok (width, height) ↔
      isWritable width = true ∧ isWritable height = true := by
  have hsplit : ((sizeText separator width height).toList.map Char.toLower).splitOnP (· == 'x') =
      [Nat.toDigits 10 width, Nat.toDigits 10 height] := by
    rw [sizeText, String.toList_ofList, List.map_append, List.map_cons, hseparator, map_toLower_toDigits,
      map_toLower_toDigits, ← List.splitOn_eq_splitOnP, Chars.splitOn_eq_iff_isCut, Chars.isCut_pair_iff]
    exact ⟨rfl, x_notMem_toDigits width, x_notMem_toDigits height⟩
  simp only [sizeOfText, hsplit, shortWholeNumber?_toDigits]
  by_cases hwidth : isWritable width = true
  · by_cases hheight : isWritable height = true
    · simp [hwidth, hheight]
    · simp [hwidth, hheight]
  · simp [hwidth]

/--
A text is read as the size that its lower case writes. It is refused as negative if that writes a size with a
negative number, and as malformed if it writes no size at all. Numbers in decimal with `x` or `X` between them
are read back if they have few enough digits to be written at all.
-/
theorem sizeOfText_reads_sizes :
    (∀ text, (∀ width height : ℕ, sizeOfText text = .ok (width, height) ↔
          WritesSize (lowerCase text).toList width height) ∧
        (sizeOfText text = .error (.negative text) ↔
          ∃ width height, WritesSize (lowerCase text).toList width height ∧ (width < 0 ∨ height < 0)) ∧
        (sizeOfText text = .error (.malformed text) ↔
          ∀ width height, ¬ WritesSize (lowerCase text).toList width height)) ∧
      ∀ width height : ℕ,
        (sizeOfText (sizeText 'x' width height) = .ok (width, height) ↔
          isWritable width = true ∧ isWritable height = true) ∧
        (sizeOfText (sizeText 'X' width height) = .ok (width, height) ↔
          isWritable width = true ∧ isWritable height = true) := by
  refine ⟨fun text => ⟨fun width height => sizeOfText_eq_ok_iff, sizeOfText_eq_negative_iff,
    sizeOfText_eq_malformed_iff⟩, fun width height => ⟨?_, ?_⟩⟩
  · exact sizeOfText_sizeText_eq_ok_iff rfl width height
  · exact sizeOfText_sizeText_eq_ok_iff rfl width height

/-- A sign, white space, an underscore and digits of two scripts. -/
example : sizeOfText "\t+1_0X-\u0660 " = .ok (10, 0) := by decide +kernel

end RegionGrid
