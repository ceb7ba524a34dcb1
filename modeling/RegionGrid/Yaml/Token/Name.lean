import RegionGrid.Yaml.Token

/-!
# Anchors, tags and directives
-/

namespace RegionGrid.Yaml

/-- The value of a hexadecimal digit. -/
def hexValue? (c : Char) : Option Nat :=
  if c.isDigit then some (c.toNat - '0'.toNat)
  else if 'a' ≤ c ∧ c ≤ 'f' then some (c.toNat - 'a'.toNat + 10)
  else if 'A' ≤ c ∧ c ≤ 'F' then some (c.toNat - 'A'.toNat + 10)
  else none

/-- The number that hexadecimal digits write. -/
def hexNumber? (digits : List Char) : Option Nat :=
  (digits.mapM hexValue?).map fun ds => ds.foldl (fun n d => 16 * n + d) 0

namespace Cursor

/-- A name after an ampersand or an asterisk. -/
def anchorName (c : Cursor) : Except Fault (String × Cursor) :=
  let (name, c') := c.next.span isNameChar
  let ended := isGap c'.peek || c'.peek.any ("?:,]\x7d%@\x60".toList.contains ·)
  if name.isEmpty || !ended then .error c'.fault else .ok (String.ofList name, c')

private def isUriChar (c : Char) : Bool :=
  c.isAlphanum || "-;/?:@&=+$,_.!~*\x27()[]%".toList.contains c

/-- Bytes written as percent signs with two hexadecimal digits each. -/
private def percentBytes (c : Cursor) : Except Fault (List UInt8 × Cursor) :=
  let step (bytes : List UInt8) (c : Cursor) : Except Fault (Bool × List UInt8 × Cursor) :=
    match c.rest with
    | '%' :: a :: b :: _ =>
      match hexNumber? [a, b] with
      | some n => .ok (true, bytes ++ [UInt8.ofNat n], c.skip 3)
      | none => .error .malformed
    | '%' :: _ => .error (c.fault 2)
    | _ => .ok (false, bytes, c)
  iterate step [] c

/-- A URI, whose percent signs stand for the bytes of its characters. -/
def uri (c : Cursor) : Except Fault (String × Cursor) := do
  let step (text : List Char) (c : Cursor) : Except Fault (Bool × List Char × Cursor) := do
    match c.peek with
    | some '%' =>
      let (bytes, c') ← percentBytes c
      match String.fromUTF8? ⟨bytes.toArray⟩ with
      | some s => return (true, text ++ s.toList, c')
      | none => throw .malformed
    | some ch => if isUriChar ch then return (true, text ++ [ch], c.next) else return (false, text, c)
    | none => return (false, text, c)
  let (text, c') ← iterate step [] c
  if c'.index == c.index then throw c.fault
  return (String.ofList text, c')

/-- The handle of a tag: an exclamation mark, or a name between two of them. -/
def tagHandle (c : Cursor) : Except Fault (String × Cursor) := do
  if c.peek ≠ some '!' then throw c.fault
  if c.peek 1 == some ' ' then return ("!", c.next)
  let (name, c') := c.next.span isNameChar
  if c'.peek ≠ some '!' then throw c'.fault
  return (String.ofList ('!' :: name ++ ['!']), c'.next)

/-- A tag. -/
def tag (c : Cursor) : Except Fault (Token × Cursor) := do
  let (token, c') ←
    if c.peek 1 == some '<' then do
      let (text, c') ← (c.skip 2).uri
      if c'.peek ≠ some '>' then throw c'.fault
      pure (Token.tag none text, c'.next)
    else if isGap (c.peek 1) then pure (Token.tag none "!", c.next)
    else do
      let word := c.next.rest.takeWhile fun ch => ch ≠ ' ' && !isBreak ch
      let (handle, c') ← if word.contains '!' then c.tagHandle else pure ("!", c.next)
      let (suffix, c') ← c'.uri
      pure (Token.tag (some handle) suffix, c')
  if isSpaceOrEnd c'.peek then return (token, c') else throw c'.fault

/-- A number in a version. -/
private def versionNumber (c : Cursor) : Except Fault (Nat × Cursor) :=
  let (digits, c') := c.span Char.isDigit
  if digits.isEmpty then .error c.fault
  else if mostDigits < digits.length then .error (.tooManyDigits digits.length)
  else .ok (digitsValue digits, c')

/-- A directive, with the rest of its line. -/
def directive (c : Cursor) : Except Fault (Token × Cursor) := do
  let (name, c') := c.next.span isNameChar
  if name.isEmpty || !isSpaceOrEnd c'.peek then throw c'.fault
  if name = "YAML".toList then
    let (major, c') ← c'.skipSpaces.versionNumber
    if c'.peek ≠ some '.' then throw c'.fault
    let (_, c') ← c'.next.versionNumber
    if !isSpaceOrEnd c'.peek then throw c'.fault
    return (.directive (.version major), ← c'.skipEmptyLine)
  else if name = "TAG".toList then
    let (handle, c') ← c'.skipSpaces.tagHandle
    if c'.peek ≠ some ' ' then throw c'.fault
    let (text, c') ← c'.skipSpaces.uri
    if !isSpaceOrEnd c'.peek then throw c'.fault
    return (.directive (.tag handle text), ← c'.skipEmptyLine)
  else
    let (_, c') := c'.span fun ch => !isBreak ch
    return (.directive .reserved, ← c'.skipEmptyLine)

end Cursor

end RegionGrid.Yaml
