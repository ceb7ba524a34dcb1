import RegionGrid.Proofs.CommandLine.Action
import RegionGrid.Proofs.Definition.Overflow
import RegionGrid.Proofs.Value.Obstacle

/-!
# Loading a layout in the program

Once the log is open, the program loads the layout that it is asked for and goes on with it. Until then it
prints nothing. Of what can be wrong with a layout, part is reported in the log, and part stops the program.
Main statement: of the malformed definitions those stop it that reach a number that is too large, and those whose
error shows a value that is nested too deeply; all others are reported. A definition that is not malformed is
loaded, unless its name is nested too deeply to be told in the log.
-/

namespace RegionGrid

namespace CommandLine

open RegionGrid.Action

variable {env : Environment} {options : Options} {tree : FileTree} {o o' : Output}

/-- The log is open, and a layout is named: it is loaded next. -/
structure Opens (env : Environment) (options : Options) (tree : FileTree) (o : Output) : Prop where
  opened : (openLog env options).result {} = (.ok tree, o)
  named : .layout ∉ options.withoutValue

/-- What is left to do with a layout that is loaded. -/
def goOn (env : Environment) (tree : FileTree) (options : Options) (layout : AdaptiveLayout Float) :
    Action Nat := do
  if options.withoutValue.contains .size then throw .noSize
  present env tree options layout
  return 0

/-- What is left to do with what was loaded. -/
def answerLoaded (env : Environment) (tree : FileTree) (options : Options) :
    Except LoadError (AdaptiveLayout Float) → Action Nat
  | .ok layout => goOn env tree options layout
  | .error e => do
    let reason ← orStop id (loadFailure env.room e)
    record [.loadFailed reason]
    return 1

theorem perform_of_opens (hopens : Opens env options tree o) : (perform env options).result {} =
    (loadLayout env tree options >>= answerLoaded env tree options).result o := by
  have hnamed : options.withoutValue.contains .layout = false := by simpa using hopens.named
  rw [perform, result_bind, hopens.opened]
  simp only [hnamed, Bool.false_eq_true, if_false]
  rfl

/-- A layout is loaded, among the files that are there once the log is open. -/
def Loads (env : Environment) (options : Options) (tree : FileTree) (layout : AdaptiveLayout Float) : Prop :=
  ∃ o o', Opens env options tree o ∧ (loadLayout env tree options).result o = (.ok (.ok layout), o')

/-- The layout that is asked for cannot be loaded. -/
def Rejects (env : Environment) (options : Options) (e : LoadError) : Prop :=
  ∃ tree o o', Opens env options tree o ∧ (loadLayout env tree options).result o = (.ok (.error e), o')

theorem silent_openLog : Silent (openLog env options) :=
  silent_orStop.bind fun _ => silent_orStop.bind fun _ => .bind (fun _ => rfl) fun _ =>
    silent_record.bind fun _ => silent_pure

theorem silent_readLayout {definition defaultName : Value} : Silent (readLayout env definition defaultName) := by
  refine silent_record.bind fun _ => ?_
  cases Definition.layout definition defaultName with
  | error e => exact silent_pure
  | ok layout =>
    refine .bind (fun _ => rfl) fun o => ?_
    dsimp only
    split_ifs
    · exact silent_recordShowing.bind fun _ => silent_pure
    · exact silent_pure

theorem silent_loadLayout : Silent (loadLayout env tree options) := by
  unfold loadLayout
  cases options.file.filter (· ≠ "") with
  | none => exact silent_record.bind fun _ => silent_readLayout
  | some spelling =>
    dsimp only
    cases env.workingDirectory.ofSpelling spelling with
    | error e => exact silent_pure
    | ok path =>
      refine silent_record.bind fun _ => ?_
      cases definitionOfFile env.reader tree path with
      | error e => exact silent_pure
      | ok definition => exact silent_readLayout

theorem runOptions_eq (env : Environment) (options : Options) : runOptions env options =
    match (perform env options).result {} with
    | (.ok code, o) => (.exit code, o)
    | (.error failure, o) => (.failed failure, o) := rfl

theorem printed_of_opens (hopens : Opens env options tree o) : o.printed = [] := by
  have hsilent : Silent (openLog env options) := silent_openLog
  simpa [hopens.opened] using hsilent {}

theorem printed_of_loaded {loaded : Except Failure (Except LoadError (AdaptiveLayout Float))}
    (hopens : Opens env options tree o) (hloaded : (loadLayout env tree options).result o = (loaded, o')) :
    o'.printed = [] := by
  have hsilent : Silent (loadLayout env tree options) := silent_loadLayout
  simpa [hloaded, printed_of_opens hopens] using hsilent o

/-- The program says in its log why there is no layout, and exits with one. -/
structure Reports (env : Environment) (options : Options) (reason : String) : Prop where
  exits : (runOptions env options).1 = .exit 1
  tells : (runOptions env options).2.log.getLast? = some (.loadFailed reason)

theorem runOptions_of_rejects {e : LoadError} (hrejects : Rejects env options e) :
    (runOptions env options).2.printed = [] ∧ match loadFailure env.room e with
      | .ok reason => Reports env options reason
      | .error failure => (runOptions env options).1 = .failed failure := by
  obtain ⟨tree, o, o', hopens, hrejected⟩ := hrejects
  have hprinted : o'.printed = [] := printed_of_loaded hopens hrejected
  have hrun : runOptions env options = match loadFailure env.room e with
      | .ok reason => (.exit 1, { o' with log := o'.log ++ [.loadFailed reason] })
      | .error failure => (.failed failure, o') := by
    rw [runOptions_eq, perform_of_opens hopens, result_bind, hrejected]
    simp only [answerLoaded, result_bind, result_orStop]
    cases loadFailure env.room e with
    | error failure => rfl
    | ok reason =>
      have hkept : [Record.loadFailed reason].filter (·.level.reaches o'.least) = [.loadFailed reason] := by
        cases o'.least <;> rfl
      simp [Except.mapError, hkept]
  cases hreason : loadFailure env.room e with
  | error failure => simp [hrun, hreason, hprinted]
  | ok reason =>
    rw [hreason] at hrun
    exact ⟨by rw [hrun, hprinted], by rw [hrun], by simp [hrun]⟩

theorem goOn_code {layout : AdaptiveLayout Float} {code : Nat}
    (hcode : (goOn env tree options layout).result o = (.ok code, o')) : code = 0 := by
  unfold goOn at hcode
  by_cases hunsized : .size ∈ options.withoutValue
  · simp [hunsized] at hcode
  · simp only [List.contains_eq_mem, hunsized, decide_false, Bool.false_eq_true, if_false] at hcode
    obtain ⟨_, _, -, hreturned⟩ := result_bind_eq_ok_iff.mp hcode
    cases hreturned
    rfl

theorem exists_opens_of_exit {code : Nat} (hexit : (runOptions env options).1 = .exit code) :
    ∃ tree o, Opens env options tree o ∧ ∃ o', (perform env options).result {} = (.ok code, o') := by
  have hperform : ∃ o, (perform env options).result {} = (.ok code, o) := by
    rw [runOptions_eq] at hexit
    generalize (perform env options).result {} = given at *
    obtain ⟨e | given, o⟩ := given
    · cases hexit
    · cases hexit
      exact ⟨o, rfl⟩
  obtain ⟨o', hperform⟩ := hperform
  have hsteps := hperform
  rw [perform, result_bind_eq_ok_iff] at hsteps
  obtain ⟨tree, o, hopened, hrest⟩ := hsteps
  have hnamed : .layout ∉ options.withoutValue := fun hunnamed => by
    simp [hunnamed] at hrest
  exact ⟨tree, o, ⟨hopened, hnamed⟩, o', hperform⟩

/-- A run with an exit code has gone on with a layout, or has reported that there is none. -/
theorem exists_loaded_of_exit {code : Nat} (hexit : (runOptions env options).1 = .exit code) :
    ∃ tree o o', Opens env options tree o ∧
      ((∃ layout o'', (loadLayout env tree options).result o = (.ok (.ok layout), o') ∧
        (goOn env tree options layout).result o' = (.ok code, o'')) ∨
      code = 1 ∧ ∃ e, (loadLayout env tree options).result o = (.ok (.error e), o')) := by
  obtain ⟨tree, o, hopens, o'', hperform⟩ := exists_opens_of_exit hexit
  rw [perform_of_opens hopens, result_bind_eq_ok_iff] at hperform
  obtain ⟨layout | e, o', hloaded, hrest⟩ := hperform
  · refine ⟨tree, o, o', hopens, .inr ⟨?_, _, hloaded⟩⟩
    obtain ⟨_, _, -, hrest⟩ := result_bind_eq_ok_iff.mp hrest
    obtain ⟨_, _, -, hreturned⟩ := result_bind_eq_ok_iff.mp hrest
    cases hreturned
    rfl
  · exact ⟨tree, o, o', hopens, .inl ⟨_, o'', hloaded, hrest⟩⟩

theorem exit_code {code : Nat} (hexit : (runOptions env options).1 = .exit code) :
    code = 0 ∨ code = 1 ∧ ∃ e, Rejects env options e := by
  obtain ⟨tree, o, o', hopens, ⟨layout, o'', -, hrest⟩ | ⟨hcode, e, hrejected⟩⟩ := exists_loaded_of_exit hexit
  · exact .inl (goOn_code hrest)
  · exact .inr ⟨hcode, e, tree, o, o', hopens, hrejected⟩

theorem runOptions_of_loaded (hopens : Opens env options tree o) {layout : AdaptiveLayout Float}
    (hloaded : (loadLayout env tree options).result o = (.ok (.ok layout), o')) : runOptions env options =
      match (goOn env tree options layout).result o' with
      | (.ok code, o) => (.exit code, o)
      | (.error failure, o) => (.failed failure, o) := by
  rw [runOptions_eq, perform_of_opens hopens, result_bind, hloaded]
  rfl

theorem runOptions_of_failed (hopens : Opens env options tree o) {failure : Failure}
    (hfailed : (loadLayout env tree options).result o = (.error failure, o')) :
    runOptions env options = (.failed failure, o') := by
  rw [runOptions_eq, perform_of_opens hopens, result_bind, hfailed]

/-- The definition that the options ask for, with the name that it has if it does not give one. -/
inductive AsksFor (env : Environment) (tree : FileTree) (options : Options) : Value → Value → Prop
  | bundled (hfile : options.file.filter (· ≠ "") = none) :
      AsksFor env tree options options.layout.definition (.string options.layout.name)
  | file {spelling : String} {path : Path} {definition : Value}
      (hfile : options.file.filter (· ≠ "") = some spelling)
      (hpath : env.workingDirectory.ofSpelling spelling = .ok path)
      (hread : definitionOfFile env.reader tree path = .ok definition) :
      AsksFor env tree options definition (.string path.stem)

section Reading

variable {definition defaultName : Value}

theorem result_loadLayout (hasked : AsksFor env tree options definition defaultName) (o : Output) :
    ∃ read, (loadLayout env tree options).result o = (readLayout env definition defaultName).result read ∧
      read.least = o.least := by
  cases hasked with
  | bundled hfile =>
    rw [loadLayout, hfile]
    exact ⟨_, rfl, rfl⟩
  | file hfile hpath hread =>
    simp only [loadLayout, hfile, hpath, hread, result_bind, result_record]
    exact ⟨_, rfl, rfl⟩

/-- The name of a layout is told in a log of this level, and it is nested too deeply for that. -/
def NameTooDeep (env : Environment) (least : Level) (layout : AdaptiveLayout Float) : Prop :=
  least = .debug ∧ layout.name.obstacle? (env.room .loaded) = some .tooDeep

instance {least : Level} {layout : AdaptiveLayout Float} : Decidable (NameTooDeep env least layout) :=
  inferInstanceAs (Decidable (_ ∧ _))

/-- What becomes of a layout that is read: it is given, unless its name is nested too deeply for the log. -/
def told (env : Environment) (least : Level) :
    Except LoadError (AdaptiveLayout Float) → Except Failure (Except LoadError (AdaptiveLayout Float))
  | .ok layout => if NameTooDeep env least layout then .error .tooDeep else .ok (.ok layout)
  | .error e => .ok (.error e)

theorem result_readLayout (env : Environment) (definition defaultName : Value) (o : Output) :
    ∃ o', (readLayout env definition defaultName).result o =
      (told env o.least ((Definition.layout definition defaultName).mapError .definition), o') := by
  simp only [readLayout, result_bind, result_record]
  cases Definition.layout definition defaultName with
  | error e => exact ⟨_, rfl⟩
  | ok layout =>
    have htold : (Record.loadedLayout layout.name (layout.templates.map (·.1))).level.reaches o.least = true ↔
        o.least = .debug := Level.debug_reaches_iff
    simp only [result_bind, result_get, Except.mapError, told, NameTooDeep]
    by_cases hdebug : o.least = .debug
    · rw [if_pos (htold.mpr hdebug)]
      simp only [hdebug, true_and, recordShowing]
      match layout.name.obstacle? (env.room .loaded) with
      | none => exact ⟨_, rfl⟩
      | some .tooManyDigits => exact ⟨_, rfl⟩
      | some .tooDeep => exact ⟨_, rfl⟩
    · simp only [htold.not.mpr hdebug, hdebug, Bool.false_eq_true, if_false, false_and]
      exact ⟨_, rfl⟩

theorem result_loadLayout_of_asksFor (hasked : AsksFor env tree options definition defaultName) (o : Output) :
    ∃ o', (loadLayout env tree options).result o =
      (told env o.least ((Definition.layout definition defaultName).mapError .definition), o') := by
  obtain ⟨read, hloaded, hleast⟩ := result_loadLayout hasked o
  rw [hloaded, ← hleast]
  exact result_readLayout env definition defaultName read

theorem rejects_of_layout_eq_error (hopens : Opens env options tree o)
    (hasked : AsksFor env tree options definition defaultName) {e : DefinitionError}
    (herror : Definition.layout definition defaultName = .error e) : Rejects env options (.definition e) := by
  obtain ⟨o', hloaded⟩ := result_loadLayout_of_asksFor hasked o
  rw [herror] at hloaded
  exact ⟨tree, o, o', hopens, hloaded⟩

end Reading

/-! ### What becomes of a definition -/

section Definitions

variable {layout : AdaptiveLayout Float} {e : DefinitionError}

/-- A layout that is read is loaded, unless its name is nested too deeply for the log. -/
theorem loads_or_stops (hopens : Opens env options tree o)
    (hloaded : (loadLayout env tree options).result o = (told env o.least (.ok layout), o')) :
    if NameTooDeep env o.least layout then (runOptions env options).1 = .failed .tooDeep
    else Loads env options tree layout := by
  rw [told] at hloaded
  split_ifs with hdeep
  · rw [if_pos hdeep] at hloaded
    rw [runOptions_of_failed hopens hloaded]
  · rw [if_neg hdeep] at hloaded
    exact ⟨o, o', hopens, hloaded⟩

/-- An error that is no number that is too large is reported, unless it shows a value that is nested too deeply. -/
theorem reports_or_stops (hrejects : Rejects env options (.definition e)) (hsmall : e.isOverflow = false) :
    match e.message (env.room (.error e)) with
    | .ok words => Reports env options words ∧ words = e.words ∧ ∀ v ∈ e.shown, v.levels ≤ env.room (.error e)
    | .error .tooManyDigits => Reports env options Value.Obstacle.tooManyDigits.message
    | .error .tooDeep =>
      (runOptions env options).1 = .failed .tooDeep ∧ ∃ v ∈ e.shown, env.room (.error e) < v.levels := by
  have hends := (runOptions_of_rejects hrejects).2
  simp only [loadFailure, hsmall, Bool.false_eq_true, if_false] at hends
  cases hmessage : e.message (env.room (.error e)) with
  | ok words =>
    rw [hmessage] at hends
    exact ⟨hends, Value.levels_le_of_message hmessage⟩
  | error obstacle =>
    rw [hmessage] at hends
    cases obstacle with
    | tooManyDigits => exact hends
    | tooDeep => exact ⟨hends, Value.exists_levels_of_message hmessage⟩

end Definitions

/--
A definition of the documented form is loaded, unless its name is nested too deeply for the log. Any other gives an
error. The error is a number that is too large if the definition reaches one before anything malformed, and only
then; the program stops there. It stops too if the error shows a value that is nested too deeply, and reports every
other error.
-/
theorem malformed_reported_unless_overflow_or_depth (definition defaultName : Value) :
    ((∃ e, Definition.layout definition defaultName = .error e ∧ e.isOverflow = true) ↔
      Definition.Overflows definition) ∧
    ∀ env options tree o, Opens env options tree o → AsksFor env tree options definition defaultName →
      (Definition.IsDefinition definition → ∃ layout, Definition.layout definition defaultName = .ok layout ∧
        if NameTooDeep env o.least layout then (runOptions env options).1 = .failed .tooDeep
        else Loads env options tree layout) ∧
      (¬ Definition.IsDefinition definition → (runOptions env options).2.printed = [] ∧
        (Definition.Overflows definition → (runOptions env options).1 = .failed .tooLarge) ∧
        (¬ Definition.Overflows definition → ∃ e, Definition.layout definition defaultName = .error e ∧
          let room := env.room (.error e)
          match e.message room with
          | .ok words => Reports env options words ∧ words = e.words ∧ ∀ v ∈ e.shown, v.levels ≤ room
          | .error .tooManyDigits => Reports env options Value.Obstacle.tooManyDigits.message
          | .error .tooDeep =>
            (runOptions env options).1 = .failed .tooDeep ∧ ∃ v ∈ e.shown, room < v.levels)) := by
  refine ⟨Definition.failsByOverflow_layout_iff, fun env options tree o hopens hasked => ⟨fun hdefinition => ?_,
    fun hmalformed => ?_⟩⟩
  · obtain ⟨layout, hlayout⟩ := Definition.exists_layout_eq_ok_iff.mpr hdefinition
    obtain ⟨o', hloaded⟩ := result_loadLayout_of_asksFor hasked o
    rw [hlayout] at hloaded
    exact ⟨layout, hlayout, loads_or_stops hopens hloaded⟩
  · have hiff : Definition.FailsByOverflow (Definition.layout definition defaultName) ↔ _ :=
      Definition.failsByOverflow_layout_iff
    cases herror : Definition.layout definition defaultName with
    | ok layout => exact absurd (Definition.exists_layout_eq_ok_iff.mp ⟨layout, herror⟩) hmalformed
    | error e =>
      rw [herror, Definition.FailsByOverflow, failsWith_error_iff] at hiff
      have hrejects : Rejects env options (.definition e) := rejects_of_layout_eq_error hopens hasked herror
      obtain ⟨hprinted, hends⟩ := runOptions_of_rejects hrejects
      refine ⟨hprinted, fun hoverflow => ?_, fun hoverflow => ⟨e, rfl, ?_⟩⟩
      · simpa [loadFailure, hiff.mpr hoverflow] using hends
      · have hsmall : e.isOverflow = false := by simpa using hiff.not.mpr hoverflow
        exact reports_or_stops hrejects hsmall

/-- A file without a document is malformed, and neither for a number nor for a value that is shown. -/
theorem malformed_reported_unless_overflow_or_depth_empty_file :
    let env : Environment := { tree := { files := [(["l.yaml"], [])] } }
    let options : Options := { file := some "l.yaml" }
    AsksFor env env.tree options .null (.string "l") ∧ ¬ Definition.IsDefinition .null ∧
      Reports env options "Layout definition must be a mapping" := by
  intro env options
  have hopens : Opens env options env.tree ((openLog env options).result {}).2 := ⟨rfl, by decide⟩
  have hread : definitionOfFile env.reader env.tree ["l.yaml"] = .ok .null := by with_unfolding_all rfl
  have hasked : AsksFor env env.tree options .null (.string "l") := .file rfl rfl hread
  have hmalformed : ¬ Definition.IsDefinition .null := by rintro ⟨⟩
  have hsmall : ¬ Definition.Overflows .null := by rintro ⟨⟩
  have hends := (malformed_reported_unless_overflow_or_depth .null (.string "l")).2 env options _ _ hopens hasked
  obtain ⟨e, herror, hreports⟩ := (hends.2 hmalformed).2.2 hsmall
  cases herror
  exact ⟨hasked, hmalformed, hreports.1⟩

end CommandLine

end RegionGrid
