import RegionGrid.Text.CodePoint
import RegionGrid.Text.Printable

/-!
# Quoted text

A text as a literal: between single quotes, or between double quotes when it holds a single quote
and no double one. The quote in use, the backslash and whatever is not printable are escaped, an
unprintable character by the shortest of the forms with two, four and eight hexadecimal digits. Bytes
have literals of the same form, with a letter in front. The words for a text that has no UTF-8 form quote
the surrogates in it.
-/

namespace RegionGrid

/-- A number in hexadecimal with at least the given count of digits. -/
def hexDigits (width n : Nat) : List Char :=
  let digits := Nat.toDigits 16 n
  List.replicate (width - digits.length) '0' ++ digits

/-- A code point by its number, in the shortest form. -/
def escapedCode (code : Nat) : List Char :=
  if code < 0x100 then '\\' :: 'x' :: hexDigits 2 code
  else if code < 0x10000 then '\\' :: 'u' :: hexDigits 4 code
  else '\\' :: 'U' :: hexDigits 8 code

/-- One character of a literal between the given quotes. -/
def escapeChar (quote c : Char) : List Char :=
  if c = quote ∨ c = '\\' then ['\\', c]
  else if c = '\n' then ['\\', 'n']
  else if c = '\r' then ['\\', 'r']
  else if c = '\t' then ['\\', 't']
  else if isPrintable c then [c]
  else escapedCode c.toNat

/-- One code point of a literal between the given quotes. -/
def escapeCode (quote : Char) (code : Nat) : List Char :=
  if isSurrogate code then escapedCode code else escapeChar quote (Char.ofNat code)

/-- The quote that a literal of the text stands between. -/
def quoteFor (s : List Char) : Char :=
  if s.contains '\x27' && !s.contains '"' then '"' else '\x27'

def quoted (s : String) : String :=
  let quote := quoteFor s.toList
  String.ofList (quote :: (codePoints s).flatMap (escapeCode quote) ++ [quote])

/-- Bytes as a literal: ASCII characters as in a text, and every other byte by its digits. -/
def quotedBytes (bytes : List UInt8) : String :=
  let chars := bytes.map fun byte => Char.ofNat byte.toNat
  let quote := quoteFor chars
  let written (c : Char) : List Char :=
    if c.toNat < 0x7f then escapeChar quote c else '\\' :: 'x' :: hexDigits 2 c.toNat
  String.ofList ('b' :: quote :: chars.flatMap written ++ [quote])

/-- Why a text has no UTF-8 form: its first surrogates, and where they are. -/
def unencodableMessage (s : String) : String :=
  let start := ((codePoints s).takeWhile fun code => !isSurrogate code).length
  let surrogates := ((codePoints s).drop start).takeWhile isSurrogate
  let place := match surrogates with
    | [code] => "character '" ++ String.ofList (escapedCode code) ++ s!"' in position {start}"
    | _ => s!"characters in position {start}-{start + surrogates.length - 1}"
  s!"'utf-8' codec can't encode {place}: surrogates not allowed"

end RegionGrid
