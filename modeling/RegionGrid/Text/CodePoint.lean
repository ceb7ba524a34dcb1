/-!
# Code points

A text is a sequence of code points. Most of them are characters. The surrogates U+D800 to U+DFFF are
none, yet a text can hold them: YAML escapes name them, and a file name that is no UTF-8 is read with
them. A `String` writes a surrogate as two characters, U+FFFF, which no script has, and one of plane 13,
where no characters are assigned; U+FFFF itself is written twice. So every sequence of code points is
written, and no two of them are written alike. A text without surrogates and U+FFFF writes itself.
-/

namespace RegionGrid

def isSurrogate (code : Nat) : Bool := 0xd800 ≤ code && code ≤ 0xdfff

namespace CodePoint

/-- How far the character that stands for a surrogate is from it. -/
def shift : Nat := 0xd0000

/-- The characters that write a code point. -/
def chars (code : Nat) : List Char :=
  if isSurrogate code then ['\uffff', Char.ofNat (shift + code)]
  else if code = 0xffff then ['\uffff', '\uffff']
  else [Char.ofNat code]

/-- The code points that characters write. -/
def ofChars : List Char → List Nat
  | '\uffff' :: c :: rest =>
    if c = '\uffff' then 0xffff :: ofChars rest
    else if isSurrogate (c.toNat - shift) then (c.toNat - shift) :: ofChars rest
    else 0xffff :: ofChars (c :: rest)
  | c :: rest => c.toNat :: ofChars rest
  | [] => []

theorem toNat_ofNat {code : Nat} (hcode : code < 0x110000) (hcharacter : isSurrogate code = false) :
    (Char.ofNat code).toNat = code := by
  have hvalid : code.isValidChar := by
    simp only [isSurrogate, Bool.and_eq_false_iff, decide_eq_false_iff_not] at hcharacter
    unfold Nat.isValidChar
    omega
  rw [Char.ofNat, dif_pos hvalid]
  rfl

theorem ofChars_cons {c : Char} (hc : c ≠ '\uffff') (rest : List Char) :
    ofChars (c :: rest) = c.toNat :: ofChars rest := by
  rw [ofChars]
  exact fun _ _ heq => absurd heq hc

theorem ofChars_chars_append {code : Nat} (hcode : code < 0x110000) (rest : List Char) :
    ofChars (chars code ++ rest) = code :: ofChars rest := by
  cases hsurrogate : isSurrogate code with
  | true =>
    have hstand : (Char.ofNat (shift + code)).toNat = shift + code := by
      simp only [isSurrogate, Bool.and_eq_true, decide_eq_true_eq] at hsurrogate
      have hplane : ¬ shift + code ≤ 0xdfff := by
        unfold shift
        omega
      refine toNat_ofNat ?_ (by rw [isSurrogate, decide_eq_false hplane, Bool.and_false])
      unfold shift
      omega
    have hother : Char.ofNat (shift + code) ≠ '\uffff' := fun heq => by
      have hsame : shift + code = 0xffff := hstand.symm.trans (congrArg Char.toNat heq)
      unfold shift at hsame
      omega
    rw [chars, if_pos hsurrogate, List.cons_append, List.singleton_append, ofChars, if_neg hother, hstand,
      Nat.add_sub_cancel_left, if_pos hsurrogate]
  | false =>
    rw [chars, hsurrogate, if_neg Bool.false_ne_true]
    by_cases hlast : code = 0xffff
    · subst hlast
      rfl
    · have hcharacter : (Char.ofNat code).toNat = code := toNat_ofNat hcode hsurrogate
      have hother : Char.ofNat code ≠ '\uffff' := fun heq =>
        hlast (hcharacter.symm.trans (congrArg Char.toNat heq))
      rw [if_neg hlast, List.singleton_append, ofChars_cons hother, hcharacter]

end CodePoint

/-- The code points of a text. -/
def codePoints (s : String) : List Nat := CodePoint.ofChars s.toList

/-- The text with the given code points. -/
def textOf (codes : List Nat) : String := String.ofList (codes.flatMap CodePoint.chars)

theorem codePoints_textOf {codes : List Nat} (hcodes : ∀ code ∈ codes, code < 0x110000) :
    codePoints (textOf codes) = codes := by
  rw [codePoints, textOf, String.toList_ofList]
  induction codes with
  | nil => rfl
  | cons code codes ih =>
    obtain ⟨hcode, hcodes⟩ := List.forall_mem_cons.mp hcodes
    rw [List.flatMap_cons, CodePoint.ofChars_chars_append hcode, ih hcodes]

/-! ### UTF-8 -/

/-- Whether a text can be written in UTF-8, which has no surrogates. -/
def isEncodable (s : String) : Bool := (codePoints s).all fun code => !isSurrogate code

/-- The characters of a text that has no surrogates. -/
def plain (s : String) : String := String.ofList ((codePoints s).map Char.ofNat)

/-- The bytes of a text that has no surrogates. -/
def encoded (s : String) : List UInt8 := (plain s).toUTF8.toList

end RegionGrid
