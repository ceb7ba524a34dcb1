import RegionGrid.Loader

/-!
# Loading sessions

A loader at work among files that change: files are written and removed while layouts are loaded from
them, from texts, or from what the loader remembers.
-/

namespace RegionGrid

/-- A loader, how it reads documents, the files it sees, and the directory from which paths are spelled. -/
structure Session where
  reader : Yaml.Reader
  workingDirectory : Path := []
  tree : FileTree := {}
  loader : Loader := {}

namespace Session

/-- Something that happens in a session. -/
inductive Step where
  | write (spelling : String) (bytes : List UInt8)
  | remove (spelling : String)
  | load (spelling : String)
  | loadText (text : String)
  /-- The loader forgets every layout. -/
  | forget

/-- What a step answers, if it answers, and the session afterwards. -/
def step (s : Session) : Step → Option (Except LoadError (AdaptiveLayout Float)) × Session
  | .write spelling bytes =>
    (none, { s with tree := s.tree.put (.resolve s.workingDirectory spelling) bytes })
  | .remove spelling =>
    (none, { s with tree := s.tree.remove (.resolve s.workingDirectory spelling) })
  | .load spelling =>
    match Path.ofSpelling s.workingDirectory spelling with
    | .error e => (some (.error (.file e)), s)
    | .ok path =>
      let (answer, loader) := s.loader.load s.reader s.tree path
      (some answer, { s with loader })
  | .loadText text => (some (layoutOfText s.reader text), s)
  | .forget => (none, { s with loader := {} })

/-- The answers of steps done one after the other. -/
def answers (s : Session) : List Step → List (Option (Except LoadError (AdaptiveLayout Float)))
  | [] => []
  | next :: rest =>
    let (answer, s) := s.step next
    answer :: s.answers rest

end Session

end RegionGrid
