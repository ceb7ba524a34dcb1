import RegionGrid.Assoc
import RegionGrid.Files.Path
import RegionGrid.Text.CodePoint

/-!
# File trees

The files that a program can see, as a value: the contents of files by their paths, and the
directories. A directory is there if it was made or if something is in it.
-/

namespace RegionGrid

/-- Why a file cannot be read or written. -/
inductive FileError where
  | notFound
  | isDirectory
  /-- Something that is no directory stands on the way. -/
  | notDirectory
  | nameTooLong
  /-- The spelling of the path holds the character NUL. -/
  | nulInPath
  /-- The spelling of the path holds a surrogate that no byte is read as. -/
  | unencodable
  deriving DecidableEq, Repr

namespace FileError

/-- The name by which the system knows the error. -/
def name : FileError → String
  | notFound => "FileNotFoundError"
  | isDirectory => "IsADirectoryError"
  | notDirectory => "NotADirectoryError"
  | nameTooLong => "OSError"
  | nulInPath => "ValueError"
  | unencodable => "UnicodeEncodeError"

/-- The error in words: a NUL in a path is told, and for the rest their names are. -/
def message : FileError → String
  | nulInPath => "embedded null byte"
  | e => s!"<{e.name}>"

/-- Whether no file at all can have such a path. -/
def isRefusal : FileError → Bool
  | nulInPath | unencodable => true
  | _ => false

end FileError

namespace Path

def longestName : Nat := 255

def longestSpelling : Nat := 4095

/-- Whether a code point stands for a byte of a name that is no UTF-8. -/
def isByte (code : Nat) : Bool := 0xdc80 ≤ code && code ≤ 0xdcff

/-- How many bytes a name or a spelling takes. -/
def byteSize (s : String) : Nat :=
  (codePoints s).foldl (fun size code => size + if isByte code then 1 else (Char.ofNat code).utf8Size) 0

/-- What keeps a spelling from being that of a path, whatever is there. -/
def refusal? (spelling : String) : Option FileError :=
  if (codePoints spelling).any fun code => isSurrogate code && !isByte code then some .unencodable
  else if spelling.toList.contains '\x00' then some .nulInPath
  else none

/-- The path that a spelling leads to, whatever is there, unless a part of the spelling is refused. -/
def ofSpelling (workingDirectory : Path) (spelling : String) : Except FileError Path :=
  ((parts spelling).findSome? refusal?).elim (.ok (resolve workingDirectory spelling)) .error

/-- The path that a spelling leads to, unless the spelling as a whole is refused. -/
def ofWholeSpelling (workingDirectory : Path) (spelling : String) : Except FileError Path :=
  (refusal? spelling).elim (.ok (resolve workingDirectory spelling)) .error

/-- Whether the names of a path and its spelling from the root are short enough. -/
def isShort (path : Path) : Bool :=
  path.all (byteSize · ≤ longestName) && byteSize path.fromRoot ≤ longestSpelling

end Path

/-- Files by their paths, and the directories that stay when they are empty. -/
structure FileTree where
  files : List (Path × List UInt8) := []
  directories : List Path := []

namespace FileTree

/-- Whether a path is a directory; the root is one. -/
def isDirectory (tree : FileTree) (path : Path) : Bool :=
  path.isEmpty || tree.directories.any (path.isPrefixOf ·) ||
    tree.files.any fun (file, _) => path.isPrefixOf file && path != file

/--
The path that names lead to from a directory, one step after the other. What is gone through must be a
directory; at the end there may be nothing.
-/
def follow (tree : FileTree) (step : Path → String → Path) (directory : Path) :
    List String → Except FileError Path
  | [] => .ok directory
  | name :: rest =>
    let next := step directory name
    if Path.longestName < Path.byteSize name then .error .nameTooLong
    else if rest.isEmpty || tree.isDirectory next then tree.follow step next rest
    else .error (if (tree.files.lookup next).isSome then .notDirectory else .notFound)

/-- The path that a spelling leads to when it is followed part by part. -/
def locate (tree : FileTree) (workingDirectory : Path) (spelling : String) :
    Except FileError Path :=
  match Path.refusal? spelling with
  | some e => .error e
  | none =>
    if Path.longestSpelling < Path.byteSize spelling then .error .nameTooLong
    else
      let start := if spelling.toList.head? = some '/' then [] else workingDirectory
      tree.follow Path.step start (Path.parts spelling)

/-- Goes down to a path from the root, name by name. -/
def descend (tree : FileTree) (path : Path) : Except FileError Path :=
  if Path.longestSpelling < Path.byteSize path.fromRoot then .error .nameTooLong
  else tree.follow (· ++ [·]) [] path

/-- Why a path at which there is no file cannot be read. -/
def absence (tree : FileTree) (path : Path) : FileError :=
  match tree.descend path with
  | .error e => e
  | .ok _ => if tree.isDirectory path then .isDirectory else .notFound

/-- The bytes of the file at a path. A path that is too long is not looked up. -/
def read (tree : FileTree) (path : Path) : Except FileError (List UInt8) :=
  match tree.files.lookup path with
  | some bytes => if path.isShort then .ok bytes else .error .nameTooLong
  | none => .error (tree.absence path)

/-- The tree with a file in it; its directory must be there. -/
def write (tree : FileTree) (path : Path) (bytes : List UInt8) : Except FileError FileTree := do
  let _ ← tree.descend path
  if tree.isDirectory path then .error .isDirectory
  else .ok { tree with files := Assoc.insert tree.files path bytes }

/-- The tree with a file in it, and with its directory. -/
def put (tree : FileTree) (path : Path) (bytes : List UInt8) : FileTree where
  files := Assoc.insert tree.files path bytes
  directories := path.dropLast :: tree.directories

def remove (tree : FileTree) (path : Path) : FileTree :=
  { tree with files := tree.files.filter (·.1 != path) }

end FileTree

end RegionGrid
