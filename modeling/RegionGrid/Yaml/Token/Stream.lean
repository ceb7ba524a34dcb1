import RegionGrid.Yaml.Source
import RegionGrid.Yaml.Token.Scalar

/-!
# The tokens of a document

Reads the tokens of a text one after the other. Indentation opens and closes block collections, and
whatever may turn out to be a key, because a colon follows it on the same line and not too far away,
is remembered until then: the key's own token belongs in front of it. So a token counts as read only
when nothing at its place may turn out to be a key; where reading fails, the others are left out.
-/

namespace RegionGrid.Yaml

/-- Something that may turn out to be a key. -/
private structure PossibleKey where
  /-- The place among the tokens where the key's token would go. -/
  position : Nat
  /-- A key must follow, because nothing else can start a line at this indentation. -/
  isRequired : Bool
  index : Nat
  line : Nat
  column : Nat

/-- The tokens read so far and what decides about the next one. -/
private structure Scanner where
  cursor : Cursor
  tokens : Array Token := #[]
  /-- The indentation of the innermost block collection; -1 outside of any. -/
  indent : Int := -1
  outerIndents : List Int := []
  /-- How many flow collections are open. -/
  flowDepth : Nat := 0
  keyAllowed : Bool := true
  /-- The possible keys by flow depth, the innermost first. -/
  possibleKeys : List (Nat × PossibleKey) := []

namespace Scanner

private def push (r : Scanner) (token : Token) : Scanner := { r with tokens := r.tokens.push token }

private def inFlow (r : Scanner) : Bool := r.flowDepth != 0

private def column (r : Scanner) : Int := r.cursor.column

/-- Whether something is on another line or too far away to be a key. -/
private def isStale (r : Scanner) (key : PossibleKey) : Bool :=
  key.line != r.cursor.line || 1024 < r.cursor.index - key.index

/-- Forgets the possible keys that are stale. -/
private def forgetStaleKeys (r : Scanner) : Except Fault Scanner :=
  if r.possibleKeys.any fun (_, key) => r.isStale key && key.isRequired then .error .malformed
  else .ok { r with possibleKeys := r.possibleKeys.filter fun (_, key) => !r.isStale key }

/-- Forgets the possible key at the current flow depth. -/
private def forgetKey (r : Scanner) : Except Fault Scanner :=
  if r.possibleKeys.any fun (depth, key) => depth == r.flowDepth && key.isRequired then
    .error .malformed
  else
    .ok { r with possibleKeys := r.possibleKeys.filter fun (depth, _) => depth != r.flowDepth }

/-- Remembers that a key may start here. -/
private def rememberKey (r : Scanner) : Except Fault Scanner := do
  if !r.keyAllowed then return r
  let r' ← r.forgetKey
  let isRequired := !r.inFlow && r.indent == r.column
  let c := r.cursor
  let key : PossibleKey := ⟨r.tokens.size, isRequired, c.index, c.line, c.column⟩
  return { r' with possibleKeys := (r.flowDepth, key) :: r'.possibleKeys }

/-- Closes the block collections that are indented further than a column. -/
private def unwind (r : Scanner) (column : Int) : Scanner :=
  if r.inFlow then r
  else
    let rec close (indent : Int) (tokens : Array Token) : List Int → Int × Array Token × List Int
      | [] => (indent, tokens, [])
      | outer :: rest =>
        if column < indent then close outer (tokens.push .blockEnd) rest
        else (indent, tokens, outer :: rest)
    let (indent, tokens, outerIndents) := close r.indent r.tokens r.outerIndents
    { r with indent, tokens, outerIndents }

/-- Opens a block collection at a column that is indented further than the innermost one. -/
private def openBlock (r : Scanner) (column : Nat) (token : Token) (position : Nat) : Scanner :=
  if r.indent < column then
    { r with
      indent := column
      outerIndents := r.indent :: r.outerIndents
      tokens := r.tokens.insertIdxIfInBounds position token }
  else r

/-- Takes characters that are a token by themselves. -/
private def take (r : Scanner) (count : Nat) (token : Token) : Scanner :=
  { r.push token with cursor := r.cursor.skip count }

private def directive (r : Scanner) : Except Fault Scanner := do
  let r ← (r.unwind (-1)).forgetKey
  let (token, cursor) ← r.cursor.directive
  return { r.push token with cursor, keyAllowed := false }

private def documentMark (r : Scanner) (token : Token) : Except Fault Scanner := do
  let r ← (r.unwind (-1)).forgetKey
  return { r with keyAllowed := false }.take 3 token

private def flowStart (r : Scanner) (token : Token) : Except Fault Scanner := do
  let r ← r.rememberKey
  return { r with flowDepth := r.flowDepth + 1, keyAllowed := true }.take 1 token

private def flowEnd (r : Scanner) (token : Token) : Except Fault Scanner := do
  let r ← r.forgetKey
  if !r.inFlow then throw .malformed
  return { r with flowDepth := r.flowDepth - 1, keyAllowed := false }.take 1 token

private def flowEntry (r : Scanner) : Except Fault Scanner := do
  let r ← r.forgetKey
  return { r with keyAllowed := true }.take 1 .flowEntry

private def blockEntry (r : Scanner) : Except Fault Scanner := do
  if !r.inFlow && !r.keyAllowed then throw .malformed
  let r := if r.inFlow then r else r.openBlock r.cursor.column .blockSequenceStart r.tokens.size
  let r ← r.forgetKey
  return { r with keyAllowed := true }.take 1 .blockEntry

private def explicitKey (r : Scanner) : Except Fault Scanner := do
  if !r.inFlow && !r.keyAllowed then throw .malformed
  let r := if r.inFlow then r else r.openBlock r.cursor.column .blockMappingStart r.tokens.size
  let r ← r.forgetKey
  return { r with keyAllowed := !r.inFlow }.take 1 .key

/-- A colon, which makes a key of the possible key, if there is one. -/
private def value (r : Scanner) : Except Fault Scanner := do
  match r.possibleKeys.lookup r.flowDepth with
  | some key =>
    let r := { r with
      possibleKeys := r.possibleKeys.filter fun (depth, _) => depth != r.flowDepth
      tokens := r.tokens.insertIdxIfInBounds key.position .key }
    let r := if r.inFlow then r else r.openBlock key.column .blockMappingStart key.position
    return { r with keyAllowed := false }.take 1 .value
  | none =>
    if !r.inFlow && !r.keyAllowed then throw .malformed
    let r := if r.inFlow then r else r.openBlock r.cursor.column .blockMappingStart r.tokens.size
    let r ← r.forgetKey
    return { r with keyAllowed := !r.inFlow }.take 1 .value

/-- A token that may start a key, and after which none may start. -/
private def content (r : Scanner) (read : Cursor → Except Fault (Token × Cursor)) :
    Except Fault Scanner := do
  let r ← r.rememberKey
  let (token, cursor) ← read r.cursor
  return { r.push token with cursor, keyAllowed := false }

private def plain (r : Scanner) : Except Fault Scanner := do
  let r ← r.rememberKey
  let (token, lineEnded, cursor) ← r.cursor.plain r.inFlow (r.indent + 1).toNat
  return { r.push token with cursor, keyAllowed := lineEnded }

private def block (r : Scanner) (folds : Bool) : Except Fault Scanner := do
  let r ← r.forgetKey
  let (token, cursor) ← r.cursor.block folds (r.indent + 1).toNat
  return { r.push token with cursor, keyAllowed := true }

private def reference (r : Scanner) : Except Fault Scanner :=
  r.content fun c => do
    let (name, c) ← c.anchorName
    return (.reference name, c)

private def anchor (r : Scanner) : Except Fault Scanner :=
  r.content fun c => do
    let (name, c) ← c.anchorName
    return (.anchor name, c)

/-- Whether a plain scalar starts here. -/
private def startsPlain (r : Scanner) (ch : Char) : Bool :=
  let next := r.cursor.peek 1
  !(isGap (some ch) || "-?:,[]\x7b\x7d#&*!|>\x27\"%@\x60".toList.contains ch) ||
    (!isGap next && (ch == '-' || (!r.inFlow && (ch == '?' || ch == ':'))))

/-- Reads the token that starts with a character. -/
private def token (r : Scanner) (ch : Char) : Except Fault Scanner :=
  let next := r.cursor.peek 1
  if ch == '%' && r.cursor.column == 0 then r.directive
  else if r.cursor.column == 0 && r.cursor.atMark '-' then r.documentMark .documentStart
  else if r.cursor.column == 0 && r.cursor.atMark '.' then r.documentMark .documentEnd
  else if ch == '[' then r.flowStart .flowSequenceStart
  else if ch == '\x7b' then r.flowStart .flowMappingStart
  else if ch == ']' then r.flowEnd .flowSequenceEnd
  else if ch == '\x7d' then r.flowEnd .flowMappingEnd
  else if ch == ',' then r.flowEntry
  else if ch == '-' && isGap next then r.blockEntry
  else if ch == '?' && (r.inFlow || isGap next) then r.explicitKey
  else if ch == ':' && (r.inFlow || isGap next) then r.value
  else if ch == '*' then r.reference
  else if ch == '&' then r.anchor
  else if ch == '!' then r.content Cursor.tag
  else if ch == '|' && !r.inFlow then r.block false
  else if ch == '>' && !r.inFlow then r.block true
  else if ch == '\x27' then r.content (·.quoted false)
  else if ch == '"' then r.content (·.quoted true)
  else if r.startsPlain ch then r.plain
  else .error .malformed

/-- There is more to read after what has been read, or the text has come to its end. -/
private def expectReadable (r : Scanner) : Except Fault Unit :=
  match r.cursor.rest, r.cursor.unreadable? with
  | [], some fault => .error fault
  | _, _ => .ok ()

/-- Reads the next token; there is none at the end of the text. -/
private def next (r : Scanner) : Except Fault (Bool × Scanner) := do
  let (lineEnded, cursor) := r.cursor.skipToToken
  let r := { r with cursor, keyAllowed := r.keyAllowed || (lineEnded && !r.inFlow) }
  r.expectReadable
  let r ← r.forgetStaleKeys
  let r := r.unwind r.column
  match r.cursor.peek with
  | some ch =>
    let r ← r.token ch
    r.expectReadable
    return (true, r)
  | none =>
    let r ← (r.unwind (-1)).forgetKey
    return (false, r)

/-- The tokens that count as read, and the fault of reading on. -/
private def failed (r : Scanner) (fault : Fault) : Array Token :=
  let keys := r.possibleKeys.filter fun (_, key) => !r.isStale key || key.isRequired
  let certain := keys.foldl (fun n (_, key) => min n key.position) r.tokens.size
  (r.tokens.extract 0 certain).push (.invalid fault)

/-- Reads all tokens. Every token takes characters, so the text comes to its end. -/
private def readAll (r : Scanner) : Array Token :=
  match r.next with
  | .error fault => r.failed fault
  | .ok (false, r') => r'.tokens
  | .ok (true, r') =>
    if _h : r'.cursor.rest.length < r.cursor.rest.length then readAll r'
    else r.failed .malformed
termination_by r.cursor.rest.length

end Scanner

/-- The tokens of a document. -/
def tokens (source : Source) : List Token :=
  (Scanner.readAll { cursor := { rest := source.text, unreadable? := source.fault? } }).toList

end RegionGrid.Yaml
