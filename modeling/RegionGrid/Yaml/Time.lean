import RegionGrid.Calendar
import RegionGrid.Text.Digit

/-!
# Times in documents

How a document writes a day or a time: the day with hyphens, then a `T` or blanks, the time of day
with colons, a fraction of the second after a point, and the offset from universal time.
-/

namespace RegionGrid.Yaml

/-- The time of day in a written time. -/
structure WrittenClock where
  (hour minute second : Nat)
  /-- The digits of the fraction. -/
  fraction : List Char
  /-- The minutes of the offset. -/
  offset? : Option Int

/-- A written time, part by part. -/
structure WrittenTime where
  (year month day : Nat)
  clock? : Option WrittenClock

namespace WrittenTime

/-- Digits, as many as possible but not more than allowed, and the text after them. -/
private def digits? (least most : Nat) (s : List Char) : Option (Nat × List Char) :=
  let taken := (s.take most).takeWhile Char.isDigit
  if least ≤ taken.length then some (digitsValue taken, s.drop taken.length) else none

private def after? (c : Char) : List Char → Option (List Char)
  | first :: rest => if first = c then some rest else none
  | [] => none

private def isSpace (c : Char) : Bool := c == ' ' || c == '\t'

/-- The offset at the end of a time. -/
private def readOffset? (s : List Char) : Option (Option Int) :=
  match s with
  | [] => some none
  | _ =>
    match s.dropWhile isSpace with
    | ['Z'] => some (some 0)
    | sign :: rest => do
      guard (sign == '+' || sign == '-')
      let (hours, rest) ← digits? 1 2 rest
      let (minutes, rest) ← if rest.isEmpty then some (0, []) else do digits? 2 2 (← after? ':' rest)
      guard rest.isEmpty
      let size : Int := hours * 60 + minutes
      return some (if sign == '-' then -size else size)
    | [] => none

/-- The time of day with its offset. -/
private def readClock? (s : List Char) : Option WrittenClock := do
  let s ← match s with
    | 'T' :: rest | 't' :: rest => some rest
    | _ => if s.head?.any isSpace then some (s.dropWhile isSpace) else none
  let (hour, s) ← digits? 1 2 s
  let (minute, s) ← digits? 2 2 (← after? ':' s)
  let (second, s) ← digits? 2 2 (← after? ':' s)
  let (fraction, s) := match s with
    | '.' :: rest => rest.span Char.isDigit
    | _ => ([], s)
  return ⟨hour, minute, second, fraction, ← readOffset? s⟩

/-- The parts of a time, if a text writes one. -/
def ofChars? (s : List Char) : Option WrittenTime := do
  let (year, s) ← digits? 4 4 s
  let (month, s) ← digits? 1 2 (← after? '-' s)
  let (day, s) ← digits? 1 2 (← after? '-' s)
  if s.isEmpty then return ⟨year, month, day, none⟩
  return ⟨year, month, day, some (← readClock? s)⟩

/-- Whether a text is a time without a tag that says so: a day alone has all of its digits then. -/
def isPlain (s : List Char) : Bool :=
  match ofChars? s with
  | some ⟨_, _, _, none⟩ => s.length == 10
  | some _ => true
  | none => false

/-- The first six digits of a fraction, as a number of millionths. -/
def millionths (fraction : List Char) : Nat :=
  digitsValue ((fraction ++ List.replicate 6 '0').take 6)

end WrittenTime

end RegionGrid.Yaml
