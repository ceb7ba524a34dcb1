import RegionGrid.Definition
import RegionGrid.Files.Tree
import RegionGrid.Yaml.Reader

/-!
# Loading layouts

Loads layouts from YAML texts and files, and remembers those that it loaded from files. A layout is
remembered by the path of its file, whatever the spelling of the path, and until it is told to forget
it is the answer for that file. What failed is tried again.
-/

namespace RegionGrid

inductive LoadError where
  | file (e : FileError)
  | yaml (fault : Yaml.Fault)
  | definition (e : DefinitionError)

/-- The name of a layout that has none and comes from no file. -/
def unnamedLayout : Value := .string "layout"

/-- The layout that a text defines. -/
def layoutOfText (reader : Yaml.Reader) (text : String) : Except LoadError (AdaptiveLayout Float) := do
  let definition ← (reader.text text).mapError .yaml
  (Definition.layout definition unnamedLayout).mapError .definition

/-- The definition that is in a file. -/
def definitionOfFile (reader : Yaml.Reader) (tree : FileTree) (path : Path) : Except LoadError Value := do
  let bytes ← (tree.read path).mapError .file
  (reader.file bytes).mapError .yaml

/-- The layout that a file defines; it is named after the file if it does not name itself. -/
def layoutOfFile (reader : Yaml.Reader) (tree : FileTree) (path : Path) :
    Except LoadError (AdaptiveLayout Float) := do
  let definition ← definitionOfFile reader tree path
  (Definition.layout definition (.string path.stem)).mapError .definition

/-- The layouts loaded from files so far, by their paths. -/
structure Loader where
  layouts : List (Path × AdaptiveLayout Float) := []

namespace Loader

/-- The layout of a file, and the loader afterwards. -/
def load (loader : Loader) (reader : Yaml.Reader) (tree : FileTree) (path : Path) :
    Except LoadError (AdaptiveLayout Float) × Loader :=
  match loader.layouts.lookup path with
  | some layout => (.ok layout, loader)
  | none =>
    match layoutOfFile reader tree path with
    | .ok layout => (.ok layout, ⟨(path, layout) :: loader.layouts⟩)
    | .error e => (.error e, loader)

end Loader

end RegionGrid
