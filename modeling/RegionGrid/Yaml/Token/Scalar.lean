import RegionGrid.Yaml.Token.Name

/-!
# Scalars

The text of a scalar in each of its forms: plain, between quotes, or as a block of lines. A line break
inside a plain or quoted scalar reads as a space, and further ones as themselves.
-/

namespace RegionGrid.Yaml.Cursor

/-- What a line break and the empty lines after it read as. -/
private def folded (first : List Char) (others : List Char) : List Char :=
  (if first ≠ ['\n'] then first else if others.isEmpty then [' '] else []) ++ others

/-! ### Plain scalars -/

/-- The part of a plain scalar up to a gap or to something that ends it. -/
private def plainRun (inFlow : Bool) : List Char → List Char
  | [] => []
  | c :: rest =>
    let ends :=
      isGap (some c) ||
      (c == ':' && (isGap rest.head? ||
        (inFlow && rest.head?.any (",[]\x7b\x7d".toList.contains ·)))) ||
      (inFlow && ",?[]\x7b\x7d".toList.contains c)
    if ends then [] else c :: plainRun inFlow rest

/-- What lies between two parts of a plain scalar, and whether a line ends there. -/
private def plainGap (c : Cursor) : List Char × Bool × Cursor :=
  let (spaces, c) := c.span (· == ' ')
  match c.lineBreak with
  | ([], _) => (spaces, false, c)
  | (first, c) =>
    if c.atDocumentMark then ([], true, c)
    else
      let step (s : List Char × Bool) (c : Cursor) :
          Except Fault (Bool × (List Char × Bool) × Cursor) :=
        let c := c.skipSpaces
        match c.lineBreak with
        | ([], _) => .ok (false, s, c)
        | (text, c) =>
          if c.atDocumentMark then .ok (false, (s.1, true), c)
          else .ok (true, (s.1 ++ text, false), c)
      match iterate step ([], false) c with
      | .ok ((others, false), c) => (folded first others, true, c)
      | .ok ((_, true), c) => ([], true, c)
      | .error _ => ([], true, c)

private structure PlainState where
  text : List Char := []
  gap : List Char := []
  lineEnded : Bool := false

/--
A plain scalar in a block with the given indentation or in a flow collection, and whether a line ended
after its last part.
-/
def plain (c : Cursor) (inFlow : Bool) (indent : Nat) : Except Fault (Token × Bool × Cursor) := do
  let step (s : PlainState) (c : Cursor) : Except Fault (Bool × PlainState × Cursor) :=
    let run := plainRun inFlow c.rest
    if c.peek == some '#' || run.isEmpty then .ok (false, s, c)
    else
      let (gap, lineEnded, c) := (c.skip run.length).plainGap
      let again := !gap.isEmpty && c.peek ≠ some '#' && (inFlow || indent ≤ c.column)
      .ok (again, ⟨s.text ++ s.gap ++ run, gap, lineEnded⟩, c)
  let (s, c) ← iterate step {} c
  return (.scalar (String.ofList s.text) true, s.lineEnded, c)

/-! ### Quoted scalars -/

/-- What a single letter after a backslash stands for. -/
private def escapedChar? : Char → Option Char
  | '0' => some '\x00'
  | 'a' => some '\x07'
  | 'b' => some '\x08'
  | 't' | '\t' => some '\t'
  | 'n' => some '\n'
  | 'v' => some '\x0b'
  | 'f' => some '\x0c'
  | 'r' => some '\r'
  | 'e' => some '\x1b'
  | ' ' => some ' '
  | '"' => some '"'
  | '\\' => some '\\'
  | '/' => some '/'
  | 'N' => some '\u0085'
  | '_' => some '\u00a0'
  | 'L' => some '\u2028'
  | 'P' => some '\u2029'
  | _ => none

/-- How many hexadecimal digits follow a letter after a backslash. -/
private def escapeDigits? : Char → Option Nat
  | 'x' => some 2
  | 'u' => some 4
  | 'U' => some 8
  | _ => none

/-- The line breaks inside a quoted scalar, and the blanks at the starts of its lines. -/
private def quotedBreaks (c : Cursor) : Except Fault (List Char × Cursor) :=
  let step (text : List Char) (c : Cursor) : Except Fault (Bool × List Char × Cursor) :=
    if c.atDocumentMark then .error .malformed
    else
      let (_, c) := c.span fun ch => ch == ' ' || ch == '\t'
      match c.lineBreak with
      | ([], _) => .ok (false, text, c)
      | (b, c) => .ok (true, text ++ b, c)
  iterate step [] c

/-- The code point that a backslash, a letter and digits write, if they stand here. -/
private def escapedCode? (c : Cursor) : Option (Nat × Cursor) := do
  guard (c.peek == some '\\')
  let count ← (c.peek 1).bind escapeDigits?
  let digits := (c.rest.drop 2).take count
  guard (digits.length = count)
  return (← hexNumber? digits, c.skip (2 + count))

/-- What a backslash and the characters after it stand for. Two surrogates do not make one character. -/
private def escape (c : Cursor) : Except Fault (List Char × Cursor) := do
  let some letter := c.peek 1 | throw (c.fault 1)
  if let some ch := escapedChar? letter then return ([ch], c.skip 2)
  if let some count := escapeDigits? letter then
    let some (code, c') := c.escapedCode?
      | let digits := (c.rest.drop 2).takeWhile fun ch => (hexValue? ch).isSome
        throw (c.fault (2 + min count digits.length))
    if 0x10ffff < code then throw (.noSuchCharacter code)
    return (CodePoint.chars code, c')
  if isBreak letter then quotedBreaks c.next.lineBreak.2 else throw .malformed

/-- A scalar between quotes; those in double quotes have escapes. -/
def quoted (c : Cursor) (double : Bool) : Except Fault (Token × Cursor) := do
  let quote := if double then '"' else '\x27'
  let step (text : List Char) (c : Cursor) : Except Fault (Bool × List Char × Cursor) := do
    let add (more : List Char) (c : Cursor) := pure (true, text ++ more, c)
    match c.rest with
    | [] => throw c.fault
    | ch :: rest =>
      if ch = quote then
        if !double && rest.head? == some '\x27' then add ['\x27'] (c.skip 2)
        else return (false, text, c)
      else if double && ch == '\\' then
        let (more, c) ← c.escape
        add more c
      else if isGap (some ch) then
        let (blanks, c) := c.span fun ch => ch == ' ' || ch == '\t'
        match c.lineBreak with
        | ([], _) => if c.rest.isEmpty then throw c.fault else add blanks c
        | (first, c) =>
          let (others, c) ← c.quotedBreaks
          add (folded first others) c
      else add [ch] c.next
  let (text, c) ← iterate step [] c.next
  return (.scalar (String.ofList text) false, c.next)

/-! ### Block scalars -/

/-- What becomes of the line breaks at the end of a block. -/
private inductive Chomping where
  | strip
  | clip
  | keep

private def chomping? : Option Char → Option Chomping
  | some '+' => some .keep
  | some '-' => some .strip
  | _ => none

private def digit? (c? : Option Char) : Option Nat :=
  c?.bind fun c => if c.isDigit then some (c.toNat - '0'.toNat) else none

/-- The indicators after the start of a block: its chomping, and its indentation if that is given. -/
private def blockIndicators (c : Cursor) : Except Fault (Chomping × Option Nat × Cursor) := do
  let (chomping, indent, c) :=
    match chomping? c.peek, digit? c.peek with
    | some chomping, _ =>
      match digit? (c.peek 1) with
      | some n => (chomping, some n, c.skip 2)
      | none => (chomping, none, c.next)
    | none, some n =>
      match chomping? (c.peek 1) with
      | some chomping => (chomping, some n, c.skip 2)
      | none => (.clip, some n, c.next)
    | none, none => (.clip, none, c)
  if indent = some 0 then throw .malformed
  if !isSpaceOrEnd c.peek then throw c.fault
  return (chomping, indent, c)

/-- The blank lines at the start of a block, and the largest indentation among them and the first. -/
private def leadingLines (c : Cursor) : List Char × Nat × Cursor :=
  let step (s : List Char × Nat) (c : Cursor) : Except Fault (Bool × (List Char × Nat) × Cursor) :=
    let c := c.skipSpaces
    let indent := max s.2 c.column
    match c.lineBreak with
    | ([], _) => .ok (false, (s.1, indent), c)
    | (b, c) => .ok (true, (s.1 ++ b, indent), c)
  match iterate step ([], 0) c with
  | .ok ((breaks, indent), c) => (breaks, indent, c)
  | .error _ => ([], 0, c)

/-- The place after the spaces of an indentation, as far as there are any. -/
private def skipIndent (c : Cursor) (indent : Nat) : Cursor :=
  c.skip (min (indent - c.column) (c.rest.takeWhile (· == ' ')).length)

/-- The empty lines in front of a line of a block. -/
private def emptyLines (c : Cursor) (indent : Nat) : List Char × Cursor :=
  let step (text : List Char) (c : Cursor) : Except Fault (Bool × List Char × Cursor) :=
    match (c.skipIndent indent).lineBreak with
    | ([], c) => .ok (false, text, c)
    | (b, c) => .ok (true, text ++ b, c)
  match iterate step [] c with
  | .ok r => r
  | .error _ => ([], c)

private structure BlockState where
  text : List Char := []
  /-- The break that ended the last line. -/
  lastBreak : List Char := []
  /-- The empty lines after it. -/
  emptyLines : List Char

/--
A scalar written as a block of lines inside a block with the given indentation. In a folded block the
break between two lines that start with no blank reads as a space.
-/
def block (c : Cursor) (folds : Bool) (outer : Nat) : Except Fault (Token × Cursor) := do
  let (chomping, indent?, c) ← c.next.blockIndicators
  let c ← c.skipEmptyLine
  let least := max outer 1
  let (first, indent, c) :=
    match indent? with
    | some n =>
      let indent := least + n - 1
      let (first, c) := c.emptyLines indent
      (first, indent, c)
    | none =>
      let (first, most, c) := c.leadingLines
      (first, max least most, c)
  let goesOn (c : Cursor) : Bool := c.column == indent && !c.rest.isEmpty
  let startsWithInk (c : Cursor) : Bool := !(c.peek == some ' ' || c.peek == some '\t')
  let step (s : BlockState) (c : Cursor) : Except Fault (Bool × BlockState × Cursor) :=
    if !goesOn c then .ok (false, s, c)
    else
      let (line, c') := c.span fun ch => !isBreak ch
      let (lastBreak, c') := c'.lineBreak
      let (empties, c') := c'.emptyLines indent
      let text := s.text ++ s.emptyLines ++ line
      if !goesOn c' then .ok (false, ⟨text, lastBreak, empties⟩, c')
      else if folds && lastBreak == ['\n'] && startsWithInk c && startsWithInk c' then
        .ok (true, ⟨text ++ (if empties.isEmpty then [' '] else []), lastBreak, empties⟩, c')
      else .ok (true, ⟨text ++ lastBreak, lastBreak, empties⟩, c')
  let (s, c) ← iterate step { emptyLines := first } c
  let ending := match chomping with
    | .strip => []
    | .clip => s.lastBreak
    | .keep => s.lastBreak ++ s.emptyLines
  return (.scalar (String.ofList (s.text ++ ending)) false, c)

end RegionGrid.Yaml.Cursor
