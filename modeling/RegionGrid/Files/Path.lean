import RegionGrid.Text.Case

/-!
# Paths

A path is a list of names that leads down from the root. A spelling of a path is resolved against the
working directory: a dot stays where it is, and two dots go up. There are no links, so that the names
decide alone.
-/

namespace RegionGrid

abbrev Path := List String

namespace Path

def parts (spelling : String) : List String :=
  (spelling.toList.splitOnP (· == '/')).map String.ofList

/-- Goes one step along a spelling. -/
def step (path : Path) (part : String) : Path :=
  if part == "" || part == "." then path
  else if part == ".." then path.dropLast
  else path ++ [part]

/-- The path that a spelling leads to, whatever is there. -/
def resolve (workingDirectory : Path) (spelling : String) : Path :=
  (parts spelling).foldl step (if spelling.toList.head? = some '/' then [] else workingDirectory)

/-- The spelling of a path from the root. -/
def fromRoot (path : Path) : String := "/" ++ "/".intercalate path

/-- How a path is shown: from the working directory if it is below that, and from the root else. -/
def text (path workingDirectory : Path) : String :=
  if workingDirectory.isPrefixOf path && path.length != workingDirectory.length then
    "/".intercalate (path.drop workingDirectory.length)
  else path.fromRoot

/-- A spelling without the parts that lead nowhere. -/
def tidied (spelling : String) : String :=
  let kept := (parts spelling).filter fun part => part != "" && part != "."
  let start := if spelling.toList.head? = some '/' then "/" else ""
  let tidy := start ++ "/".intercalate kept
  if tidy == "" then "." else tidy

/--
Where the extension of a name starts: at its last dot. A dot with nothing but dots before it starts
none.
-/
def splitExtension (name : List Char) : List Char × List Char :=
  let afterDot := (name.reverse.takeWhile (· ≠ '.')).reverse
  let base := name.take (name.length - afterDot.length - 1)
  if afterDot.length < name.length && base.any (· ≠ '.') then (base, '.' :: afterDot) else (name, [])

/-- The last name of a path without its extension. A dot at the very start or end starts none. -/
def stem (path : Path) : String :=
  let name := (path.getLast?.getD "").toList
  let afterDot := (name.reverse.takeWhile (· ≠ '.')).reverse
  let base := name.take (name.length - afterDot.length - 1)
  if afterDot.length < name.length && !base.isEmpty && !afterDot.isEmpty then String.ofList base
  else String.ofList name

/-- The extension of a spelling in lower case, with its dot. -/
def lowerExtension (spelling : String) : String :=
  lowerCase (String.ofList (splitExtension ((parts spelling).getLast?.getD "").toList).2)

end Path

end RegionGrid
