import RegionGrid.Yaml.Fault

/-!
# Reading a document character by character

The characters that a YAML document may hold, the classes that its tokens are told apart by, and a
place in a document that knows its line and column. A document may be readable only up to some
character; whoever comes to the end of what can be read finds the fault of what is behind it.
-/

namespace RegionGrid.Yaml

/-- Whether a document may hold the character. -/
def isDocumentChar (c : Char) : Bool :=
  let n := c.toNat
  n == 0x09 || n == 0x0a || n == 0x0d || (0x20 ≤ n && n ≤ 0x7e) || n == 0x85 ||
    (0xa0 ≤ n && n ≤ 0xd7ff) || (0xe000 ≤ n && n ≤ 0xfffd) || 0x10000 ≤ n

/-- A character that ends a line of a document. -/
def isBreak (c : Char) : Bool :=
  c == '\n' || c == '\r' || c == '\u0085' || c == '\u2028' || c == '\u2029'

/-- The end of the text or of a line. -/
def isLineEnd (c? : Option Char) : Bool := c?.all isBreak

/-- The end of the text or of a line, or a space. -/
def isSpaceOrEnd (c? : Option Char) : Bool := c?.all fun c => c == ' ' || isBreak c

/-- The end of the text or of a line, a space or a tab. -/
def isGap (c? : Option Char) : Bool := c?.all fun c => c == ' ' || c == '\t' || isBreak c

/-- A character of a name: an ASCII letter or digit, a hyphen or an underscore. -/
def isNameChar (c : Char) : Bool := c.isAlphanum || c == '-' || c == '_'

/-- A place in a document. -/
structure Cursor where
  rest : List Char
  /-- What keeps the text after `rest` from being read; nothing does where there is no such text. -/
  unreadable? : Option Fault := none
  index : Nat := 0
  line : Nat := 0
  column : Nat := 0

namespace Cursor

/-- The character at a distance from the place. -/
def peek (c : Cursor) (distance : Nat := 0) : Option Char := c.rest[distance]?

/-- The fault of not finding at a distance what has to stand there. -/
def fault (c : Cursor) (distance : Nat := 0) : Fault :=
  match c.peek distance, c.unreadable? with
  | none, some fault => fault
  | _, _ => .malformed

/-- The place after the next character. A byte order mark takes no column. -/
def next (c : Cursor) : Cursor :=
  match c.rest with
  | [] => c
  | ch :: rest =>
    if isBreak ch && !(ch == '\r' && rest.head? == some '\n') then
      { c with rest, index := c.index + 1, line := c.line + 1, column := 0 }
    else
      { c with
        rest
        index := c.index + 1
        column := if ch == '\ufeff' then c.column else c.column + 1 }

/-- The place after a number of characters. -/
def skip (c : Cursor) : Nat → Cursor
  | 0 => c
  | n + 1 => c.next.skip n

/-- The characters up to the first that has not the property, and the place of that one. -/
def span (c : Cursor) (p : Char → Bool) : List Char × Cursor :=
  let taken := c.rest.takeWhile p
  (taken, c.skip taken.length)

/-- The place after the spaces. -/
def skipSpaces (c : Cursor) : Cursor := (c.span (· == ' ')).2

/-- The place after the comment, if one starts here. -/
def skipComment (c : Cursor) : Cursor :=
  if c.peek == some '#' then (c.span fun ch => !isBreak ch).2 else c

/-- The end of a line as the text that it stands for, which is empty elsewhere. -/
def lineBreak (c : Cursor) : List Char × Cursor :=
  match c.rest with
  | '\r' :: '\n' :: _ => (['\n'], c.skip 2)
  | ch :: _ =>
    if ch == '\u2028' || ch == '\u2029' then ([ch], c.next)
    else if isBreak ch then (['\n'], c.next)
    else ([], c)
  | [] => ([], c)

/-- Whether three equal characters, followed by a gap, stand here. -/
def atMark (c : Cursor) (mark : Char) : Bool :=
  c.rest.take 3 == [mark, mark, mark] && isGap (c.peek 3)

/-- Whether something that ends a document stands here. -/
def atDocumentMark (c : Cursor) : Bool := c.atMark '-' || c.atMark '.'

/--
Repeats a step for as long as it asks for another one. A step that takes no characters is the last
one, so the repetition ends with the text.
-/
def iterate {σ : Type} (step : σ → Cursor → Except Fault (Bool × σ × Cursor)) (s : σ) (c : Cursor) :
    Except Fault (σ × Cursor) :=
  match step s c with
  | .error fault => .error fault
  | .ok (again, s', c') =>
    if _h : again ∧ c'.rest.length < c.rest.length then iterate step s' c' else .ok (s', c')
termination_by c.rest.length

/-- The place after blank lines, comment lines and spaces, and whether a line ended on the way. -/
def skipToToken (c : Cursor) : Bool × Cursor :=
  let start := if c.index == 0 && c.peek == some '\ufeff' then c.next else c
  let step (ended : Bool) (c : Cursor) : Except Fault (Bool × Bool × Cursor) :=
    match c.skipSpaces.skipComment.lineBreak with
    | ([], c') => .ok (false, ended, c')
    | (_, c') => .ok (true, true, c')
  (iterate step false start).toOption.getD (false, start)

/-- The place after the rest of a line that holds at most a comment. -/
def skipEmptyLine (c : Cursor) : Except Fault Cursor :=
  let c := c.skipSpaces.skipComment
  if isLineEnd c.peek then .ok c.lineBreak.2 else .error c.fault

end Cursor

end RegionGrid.Yaml
