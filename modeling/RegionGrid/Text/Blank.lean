/-!
# White space, words and lines

Unicode white space and the three ways in which text is cut by it: a row of a template is cut into
words, a block of text into lines, and a word is trimmed at both ends. The work is done on character
lists, so that each cut is one recursion on the text; the functions on strings wrap them.
-/

namespace RegionGrid

/-- Unicode white space, the information separators included. -/
def isBlank (c : Char) : Bool :=
  let n := c.toNat
  (0x09 ≤ n && n ≤ 0x0d) || (0x1c ≤ n && n ≤ 0x20) || n == 0x85 || n == 0xa0 || n == 0x1680 ||
    (0x2000 ≤ n && n ≤ 0x200a) || n == 0x2028 || n == 0x2029 || n == 0x202f || n == 0x205f ||
    n == 0x3000

/-- A character that ends a line. -/
def isLineBreak (c : Char) : Bool :=
  let n := c.toNat
  (0x0a ≤ n && n ≤ 0x0d) || (0x1c ≤ n && n ≤ 0x1e) || n == 0x85 || n == 0x2028 || n == 0x2029

namespace Chars

/-- The maximal runs of characters that are not blank, in order. -/
def words : List Char → List (List Char)
  | [] => []
  | c :: rest =>
    if isBlank c then words rest
    else if rest.head?.all isBlank then [c] :: words rest
    else match words rest with
      | [] => [[c]]
      | word :: more => (c :: word) :: more

/-- The text without the characters at its two ends that have a property. -/
def trimBy (p : Char → Bool) (s : List Char) : List Char :=
  ((s.dropWhile p).reverse.dropWhile p).reverse

def trim (s : List Char) : List Char := trimBy isBlank s

/-- The text without the line feed at its end. -/
def withoutFinalBreak (s : List Char) : List Char :=
  if s.getLast? = some '\n' then s.dropLast else s

/--
The lines of a text. A carriage return and a line feed end one line together, and the end of the
text ends a line only if characters stand before it.
-/
def lines : List Char → List (List Char)
  | [] => []
  | '\r' :: '\n' :: rest => [] :: lines rest
  | c :: rest =>
    if isLineBreak c then [] :: lines rest
    else match lines rest with
      | [] => [[c]]
      | line :: more => (c :: line) :: more

end Chars

/-- The maximal runs of characters that are not blank, in order. -/
def words (s : String) : List String := (Chars.words s.toList).map String.ofList

def trim (s : String) : String := String.ofList (Chars.trim s.toList)

/-- The lines of a text, without what ends them. -/
def lines (s : String) : List String := (Chars.lines s.toList).map String.ofList

/-- Whether the text holds a character that is not blank. -/
def hasInk (s : String) : Bool := s.toList.any fun c => !isBlank c

end RegionGrid
