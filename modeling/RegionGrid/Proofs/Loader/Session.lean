import RegionGrid.Loader.Session
import RegionGrid.Proofs.Assoc
import RegionGrid.Proofs.Run
import Mathlib.Data.List.DropRight

/-!
# What a loading session answers

What a session should answer is told by its history alone: the steps so far with their answers. A load
repeats the first layout that was loaded from the same path since the loader last forgot, whatever the
spelling was then and whatever became of the file; if there is none, it gives what is built from the bytes that
the last change of the file left, named after the path. The loader agrees with the history after every step, so
it does after every run. How documents are read does not matter: any function of the bytes will do. Main
statement: every load of every session answers so, and a load that fails and a text that is loaded leave no trace.
-/

namespace RegionGrid

abbrev LoadAnswer := Except LoadError (AdaptiveLayout Float)

/-! ### One load -/

namespace Loader

variable (loader : Loader) (reader : Yaml.Reader) (tree : FileTree) (path : Path)

theorem load_fst : (loader.load reader tree path).1 =
    (loader.layouts.lookup path).elim (layoutOfFile reader tree path) .ok := by
  rw [load]
  cases loader.layouts.lookup path with
  | some layout => rfl
  | none => cases layoutOfFile reader tree path <;> rfl

/-- A layout is remembered from the first load of its path that succeeds. -/
theorem lookup_load (other : Path) : (loader.load reader tree path).2.layouts.lookup other =
    (loader.layouts.lookup other).or
      (if path = other then (loader.load reader tree path).1.toOption else none) := by
  by_cases hpath : path = other
  · subst hpath
    rw [if_pos rfl, load]
    cases hlookup : loader.layouts.lookup path with
    | some layout => exact hlookup
    | none =>
      cases layoutOfFile reader tree path with
      | ok layout => exact List.lookup_cons_self
      | error e => exact hlookup
  · rw [if_neg hpath, Option.or_none, load]
    cases loader.layouts.lookup path with
    | some layout => rfl
    | none =>
      cases layoutOfFile reader tree path with
      | ok layout => rw [List.lookup_cons, beq_eq_false_iff_ne.mpr (Ne.symm hpath)]
      | error e => rfl

theorem load_of_error {e : LoadError} (herror : (loader.load reader tree path).1 = .error e) :
    (loader.load reader tree path).2 = loader := by
  rw [load] at herror ⊢
  cases hlookup : loader.layouts.lookup path with
  | some layout => rfl
  | none =>
    rw [hlookup] at herror
    cases hfile : layoutOfFile reader tree path with
    | ok layout =>
      rw [hfile] at herror
      cases herror
    | error d => rfl

end Loader

/-- The layout that a document defines, by the value that was read from it. -/
def built (document : Except Yaml.Fault Value) (defaultName : Value) : LoadAnswer :=
  match document with
  | .error fault => .error (.yaml fault)
  | .ok definition =>
    match Definition.layout definition defaultName with
    | .error e => .error (.definition e)
    | .ok layout => .ok layout

theorem built_eq_bind (document : Except Yaml.Fault Value) (defaultName : Value) : built document defaultName =
    document.mapError .yaml >>= fun definition =>
      (Definition.layout definition defaultName).mapError .definition := by
  cases document with
  | error fault => rfl
  | ok definition =>
    simp only [built, Except.mapError, bind, Except.bind]
    cases Definition.layout definition defaultName <;> rfl

theorem layoutOfText_eq_built (reader : Yaml.Reader) (text : String) :
    layoutOfText reader text = built (reader.text text) unnamedLayout := (built_eq_bind _ _).symm

theorem layoutOfFile_eq (reader : Yaml.Reader) (tree : FileTree) (path : Path) : layoutOfFile reader tree path =
    match tree.files.lookup path with
    | some bytes =>
      if path.isShort then built (reader.file bytes) (.string path.stem) else .error (.file .nameTooLong)
    | none => .error (.file (tree.absence path)) := by
  rw [layoutOfFile, definitionOfFile, FileTree.read]
  cases tree.files.lookup path with
  | none => rfl
  | some bytes =>
    cases path.isShort with
    | false => rfl
    | true => exact (built_eq_bind (reader.file bytes) (.string path.stem)).symm

namespace Session

/-! ### Runs -/

variable (s : Session) (steps : List Step)

theorem answers_eq_run : s.answers steps = Run.answers step s steps := by
  induction steps generalizing s with
  | nil => rfl
  | cons next steps ih => exact congrArg (List.cons _) (ih (s.step next).2)

/-- The session after some steps. -/
def after : Session := Run.after step s steps

theorem after_concat (next : Step) : s.after (steps ++ [next]) = ((s.after steps).step next).2 :=
  Run.after_concat step s steps next

theorem getElem?_answers (next : Step) (rest : List Step) :
    (s.answers (steps ++ next :: rest))[steps.length]? = some ((s.after steps).step next).1 := by
  rw [answers_eq_run, Run.getElem?_answers]
  rfl

/-- A load changes what the loader remembers, and nothing else. -/
theorem exists_step_load (spelling : String) : ∃ loader, (s.step (.load spelling)).2 = { s with loader } := by
  rw [step]
  cases Path.ofSpelling s.workingDirectory spelling with
  | error e => exact ⟨s.loader, rfl⟩
  | ok path => exact ⟨_, rfl⟩

theorem step_workingDirectory (next : Step) : (s.step next).2.workingDirectory = s.workingDirectory := by
  cases next with
  | load spelling =>
    obtain ⟨loader, hload⟩ := s.exists_step_load spelling
    rw [hload]
  | _ => rfl

theorem step_reader (next : Step) : (s.step next).2.reader = s.reader := by
  cases next with
  | load spelling =>
    obtain ⟨loader, hload⟩ := s.exists_step_load spelling
    rw [hload]
  | _ => rfl

theorem after_workingDirectory : (s.after steps).workingDirectory = s.workingDirectory :=
  Run.after_eq step s workingDirectory step_workingDirectory steps

theorem after_reader : (s.after steps).reader = s.reader := Run.after_eq step s reader step_reader steps

/-! ### What the history tells -/

def Step.forgets : Step → Bool
  | .forget => true
  | _ => false

/-- The layout that a step loaded from a path. -/
def loaded? (workingDirectory path : Path) : Step × Option LoadAnswer → Option (AdaptiveLayout Float)
  | (.load spelling, some answer) =>
    if Path.ofSpelling workingDirectory spelling = .ok path then answer.toOption else none
  | _ => none

/-- The first layout that was loaded from a path since the loader last forgot. -/
def firstLoaded? (path : Path) : Option (AdaptiveLayout Float) :=
  ((steps.zip (s.answers steps)).rtakeWhile fun entry => !entry.1.forgets).findSome?
    (loaded? s.workingDirectory path)

/-- What a step makes of the file at a path: its new bytes, or nothing if it removes the file. -/
def change? (workingDirectory path : Path) : Step → Option (Option (List UInt8))
  | .write spelling bytes => if path = .resolve workingDirectory spelling then some (some bytes) else none
  | .remove spelling => if path = .resolve workingDirectory spelling then some none else none
  | _ => none

/-- The bytes of the file at a path after some steps: what the last change of the file made of it. -/
def content? (path : Path) : Option (List UInt8) :=
  (steps.reverse.findSome? (change? s.workingDirectory path)).getD (s.tree.files.lookup path)

/-- What building a layout from the file at a path gives after some steps. -/
def builtFrom (path : Path) : LoadAnswer :=
  match s.content? steps path with
  | some bytes =>
    if path.isShort then built (s.reader.file bytes) (.string path.stem) else .error (.file .nameTooLong)
  | none => .error (.file ((s.after steps).tree.absence path))

/-- What a load should answer after some steps. -/
def expected (spelling : String) : LoadAnswer :=
  match Path.ofSpelling s.workingDirectory spelling with
  | .error e => .error (.file e)
  | .ok path => (s.firstLoaded? steps path).elim (s.builtFrom steps path) .ok

/-! ### One step -/

theorem firstLoaded?_concat (next : Step) (path : Path) :
    s.firstLoaded? (steps ++ [next]) path =
      if next.forgets then none
      else (s.firstLoaded? steps path).or
        (loaded? s.workingDirectory path (next, ((s.after steps).step next).1)) := by
  rw [firstLoaded?, answers_eq_run, ← Run.history, Run.history_concat, List.rtakeWhile_concat]
  cases next.forgets with
  | true => rfl
  | false =>
    simp only [Bool.not_false, if_true, Bool.false_eq_true, if_false, List.findSome?_append,
      List.findSome?_singleton, firstLoaded?, answers_eq_run]
    rfl

/-- What the loader remembers changes as the history does. -/
theorem lookup_step (next : Step) (path : Path) :
    (s.step next).2.loader.layouts.lookup path =
      if next.forgets then none
      else (s.loader.layouts.lookup path).or (loaded? s.workingDirectory path (next, (s.step next).1)) := by
  cases next with
  | forget => rfl
  | write spelling bytes => exact Option.or_none.symm
  | remove spelling => exact Option.or_none.symm
  | loadText text => exact Option.or_none.symm
  | load spelling =>
    simp only [step, Step.forgets, Bool.false_eq_true, if_false]
    cases hpath : Path.ofSpelling s.workingDirectory spelling with
    | error e => simp only [loaded?, hpath, reduceCtorEq, if_false, Option.or_none]
    | ok found => simp only [loaded?, hpath, Except.ok.injEq, s.loader.lookup_load]

theorem lookup_files_step (next : Step) (path : Path) :
    (s.step next).2.tree.files.lookup path =
      (change? s.workingDirectory path next).getD (s.tree.files.lookup path) := by
  cases next with
  | forget => rfl
  | loadText text => rfl
  | load spelling =>
    obtain ⟨loader, hload⟩ := s.exists_step_load spelling
    rw [hload]
    rfl
  | write spelling bytes =>
    simp only [step, FileTree.put, lookup_insert, beq_iff_eq, change?]
    split <;> rfl
  | remove spelling =>
    simp only [step, FileTree.remove, lookup_filter_ne, beq_iff_eq, change?]
    split <;> rfl

/-! ### Every step of every run -/

theorem lookup_after (hloader : s.loader.layouts = []) (path : Path) :
    (s.after steps).loader.layouts.lookup path = s.firstLoaded? steps path := by
  induction steps using List.reverseRecOn with
  | nil => exact congrArg (List.lookup path) hloader
  | append_singleton steps next ih =>
    rw [after_concat, lookup_step, ih, firstLoaded?_concat, after_workingDirectory]

theorem lookup_files_after (path : Path) :
    (s.after steps).tree.files.lookup path = s.content? steps path := by
  induction steps using List.reverseRecOn with
  | nil => rfl
  | append_singleton steps next ih =>
    rw [after_concat, lookup_files_step, ih, after_workingDirectory, content?, content?,
      List.reverse_concat, List.findSome?_cons]
    cases change? s.workingDirectory path next <;> rfl

theorem load_after (hloader : s.loader.layouts = []) (spelling : String) :
    ((s.after steps).step (.load spelling)).1 = some (s.expected steps spelling) := by
  rw [step, after_workingDirectory, expected]
  cases Path.ofSpelling s.workingDirectory spelling with
  | error e => rfl
  | ok path =>
    simp only [Loader.load_fst, s.lookup_after steps hloader, layoutOfFile_eq, builtFrom, lookup_files_after,
      after_reader]

theorem step_of_error {spelling : String} {e : LoadError}
    (herror : (s.step (.load spelling)).1 = some (.error e)) : (s.step (.load spelling)).2 = s := by
  rw [step] at herror ⊢
  cases hpath : Path.ofSpelling s.workingDirectory spelling with
  | error d => rfl
  | ok path =>
    simp only [hpath, Option.some.injEq] at herror
    simp only [s.loader.load_of_error s.reader s.tree path herror]

/--
Every load of a session answers the first layout that was loaded from the same path since the loader last
forgot, or else what is built from the file as the changes so far have left it. A load that fails changes
nothing, and neither does a text that is loaded, whose answer depends on nothing else.
-/
theorem answers_eq_expected (reader : Yaml.Reader) (workingDirectory : Path) (tree : FileTree)
    (before rest : List Step) :
    let start : Session := { reader, workingDirectory, tree }
    (∀ spelling, (start.answers (before ++ .load spelling :: rest))[before.length]? =
        some (some (start.expected before spelling))) ∧
      (∀ path, (start.after before).tree.files.lookup path = start.content? before path) ∧
      (∀ spelling e, start.expected before spelling = .error e →
        start.after (before ++ [.load spelling]) = start.after before) ∧
      ∀ text, start.after (before ++ [.loadText text]) = start.after before ∧
        (start.answers (before ++ .loadText text :: rest))[before.length]? =
          some (some (built (reader.text text) (.string "layout"))) := by
  intro start
  refine ⟨fun spelling => ?_, start.lookup_files_after before, fun spelling e herror => ?_, fun text => ⟨?_, ?_⟩⟩
  · rw [getElem?_answers, start.load_after before rfl]
  · rw [after_concat]
    apply step_of_error
    rw [start.load_after before rfl, herror]
  · rw [after_concat]
    rfl
  · rw [getElem?_answers, step, layoutOfText_eq_built, after_reader]
    rfl

end Session

end RegionGrid
