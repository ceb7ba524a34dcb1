import RegionGrid.CommandLine.Run

/-!
# The program

Reads the file that the arguments name, runs the program on it, and writes what the run says: lines to
standard output, the log to standard error and to its file, and the picture, without labels. The run
itself is the function `RegionGrid.CommandLine.run`.
-/

namespace RegionGrid

/-- The spelling of a path below the root, where runs of the program take place. -/
private def spelling (path : Path) : String := "/".intercalate path

/-- The files that a run needs: the definition that is named, and the directories to write to. -/
private def visibleTree (options : Options) : IO FileTree := do
  let outputs := options.logFile.toList ++ options.render.toList
  let directories := outputs.map fun output => (Path.resolve [] output).dropLast
  match options.file.filter (· ≠ "") with
  | none => return { directories }
  | some file =>
    try
      let bytes ← IO.FS.readBinFile file
      return { files := [(Path.resolve [] file, bytes.toList)], directories }
    catch
      | .noFileOrDirectory .. => return { directories }
      | e => throw e

end RegionGrid

open RegionGrid in
/-- Runs the program on the arguments of the command line. -/
def main (arguments : List String) : IO UInt32 := do
  let some options := Options.ofArguments? arguments
    | do IO.eprintln "invalid arguments"; return 2
  let (ending, output) := CommandLine.runOptions { tree := ← visibleTree options } options
  IO.print (plain output.stdout)
  for r in output.log do IO.eprint (plain r.fileLine)
  if let some file := options.logFile.filter (· ≠ "") then IO.FS.writeFile file (plain output.logText)
  if let some (path, format, picture) := output.picture then
    IO.FS.writeBinFile (spelling path) ⟨(picture.bytes format).toArray⟩
  match ending with
  | .exit code => return UInt32.ofNat code
  | .failed failure => IO.eprintln failure.message; return 1
