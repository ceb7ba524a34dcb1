import RegionGrid.Proofs.CommandLine.Agreement
import RegionGrid.Proofs.CommandLine.ValueErrors

/-!
# Value errors that leave the program

The program reports what is wrong with the layout that it is asked for and exits with one. It does not report what
is wrong with the log file, with a size that is not given, with a name that has too many digits to be shown, with a
line that cannot be printed, or with a picture: these leave the program where they happen.
-/

namespace RegionGrid

namespace CommandLine

open RegionGrid.Action

variable {env : Environment} {options : Options} {tree : FileTree} {o o' : Output}

/-! ### Loading -/

theorem isValueError_of_loadFailure {room : Saying → Nat} {e : LoadError} {failure : Failure}
    (he : loadFailure room e = .error failure) : failure.isValueError = false := by
  cases e with
  | file e => cases he
  | yaml fault =>
    rw [loadFailure] at he
    split_ifs at he with hreported
    cases he
    simpa [Failure.isValueError] using hreported
  | definition e =>
    rw [loadFailure] at he
    split_ifs at he
    · cases he
      rfl
    · cases hmessage : e.message (room (.error e)) with
      | ok message => simp [hmessage] at he
      | error obstacle =>
        cases obstacle with
        | tooManyDigits => simp [hmessage] at he
        | tooDeep =>
          simp only [hmessage, Except.error.injEq] at he
          exact he ▸ rfl

/-- Loading stops the program only at a name that is nested too deeply. -/
theorem eq_tooDeep_of_loadLayout {failure : Failure}
    (hfailed : (loadLayout env tree options).result o = (.error failure, o')) : failure = .tooDeep := by
  obtain ⟨o₁, hread⟩ := result_loadLayout_eq_freshlyLoaded env tree options o
  rw [hfailed, Prod.mk.injEq] at hread
  cases hloaded : freshlyLoaded env tree options with
  | error e => simp [hloaded, told] at hread
  | ok layout =>
    rw [hloaded, told] at hread
    split_ifs at hread
    · exact Except.error.inj hread.1
    · cases hread.1

/-! ### The program -/

/-- How a value error leaves the program. -/
inductive Leaks (env : Environment) (options : Options) : Prop
  | logFile {spelling : String} (hgiven : options.logFile = some spelling)
      (hrefused : (Path.refusal? spelling).isSome = true)
  | presenting {tree : FileTree} {layout : AdaptiveLayout Float} (hloads : Loads env options tree layout)
      (hfails : PresentingFails env tree options layout)

theorem exists_failed_iff {P : Failure → Prop} :
    (∃ failure, (runOptions env options).1 = .failed failure ∧ P failure) ↔ Fails P (perform env options) {} := by
  rw [runOptions_eq, Fails]
  generalize (perform env options).result {} = given
  obtain ⟨e | code, o⟩ := given
  · simp
  · simp

theorem not_fails_answerLoaded_error {e : LoadError} :
    ¬ Fails (·.isValueError = true) (answerLoaded env tree options (.error e)) o := by
  simp only [answerLoaded, fails_orStop_bind, fails_record_bind, not_fails_pure, and_false, exists_false, or_false, id]
  rintro ⟨failure, hreason, hfails⟩
  simp [isValueError_of_loadFailure hreason] at hfails

theorem fails_perform_iff_of_opens (hopens : Opens env options tree o) :
    Fails (·.isValueError = true) (perform env options) {} ↔ ∃ layout o',
      (loadLayout env tree options).result o = (.ok (.ok layout), o') ∧ PresentingFails env tree options layout := by
  have hperform : Fails (·.isValueError = true) (perform env options) {} ↔
      Fails (·.isValueError = true) (loadLayout env tree options >>= answerLoaded env tree options) o := by
    rw [Fails, perform_of_opens hopens, Fails]
  rw [hperform, fails_bind_iff, or_iff_right]
  · constructor
    · rintro ⟨layout | e, o', hloaded, hfails⟩
      · exact absurd hfails not_fails_answerLoaded_error
      · exact ⟨_, o', hloaded, fails_goOn_iff.mp hfails⟩
    · rintro ⟨layout, o', hloaded, hfails⟩
      exact ⟨_, o', hloaded, fails_goOn_iff.mpr hfails⟩
  · rintro ⟨failure, hfailed, hfails⟩
    rw [eq_tooDeep_of_loadLayout (Prod.ext hfailed rfl)] at hfails
    cases hfails

theorem fails_perform_iff : Fails (·.isValueError = true) (perform env options) {} ↔ Leaks env options := by
  constructor
  · intro hfails
    have hstart := hfails
    rw [perform, fails_bind_iff, fails_openLog_iff] at hstart
    obtain ⟨spelling, hgiven, hrefused⟩ | ⟨tree, o, hopened, hrest⟩ := hstart
    · exact .logFile hgiven hrefused
    · have hnamed : .layout ∉ options.withoutValue := fun hunnamed => by
        simp [hunnamed, Failure.isValueError] at hrest
      have hopens : Opens env options tree o := ⟨hopened, hnamed⟩
      obtain ⟨layout, o', hloaded, hfails⟩ := (fails_perform_iff_of_opens hopens).mp hfails
      exact .presenting ⟨o, o', hopens, hloaded⟩ hfails
  · intro hleaks
    cases hleaks with
    | logFile hgiven hrefused => exact fails_bind_iff.mpr (.inl (fails_openLog_iff.mpr ⟨_, hgiven, hrefused⟩))
    | presenting hloads hfails =>
      obtain ⟨o, o', hopens, hloaded⟩ := hloads
      exact (fails_perform_iff_of_opens hopens).mpr ⟨_, o', hloaded, hfails⟩

theorem isEncodable_of_mem_place_holyGrail {layout : AdaptiveLayout Float}
    (hlayout : Bundled.holyGrail.layout = .ok layout) {x y : Float} {region : String × Rect Float} (hregion : region ∈ (layout.place x y).rects) :
    isEncodable region.1 = true := by
  have hnames : Bundled.holyGrail.layout.toOption.all fun layout =>
      layout.templates.all fun entry => entry.2.plan.cells.all fun cell => isEncodable cell.name := by decide +kernel
  simp only [hlayout, Except.toOption, Option.all_some, List.all_eq_true] at hnames
  rw [AdaptiveLayout.place] at hregion
  split_ifs at hregion
  · cases hregion
  · cases htemplate : layout.templateFor? x with
    | none => simp [htemplate] at hregion
    | some template =>
      obtain ⟨before, after, hentries, -⟩ := List.lookup_eq_some_iff.mp htemplate
      rw [htemplate] at hregion
      obtain ⟨cell, hcell, -, hname, -⟩ := mem_placeCells.mp hregion
      rw [← hname]
      exact hnames (layout.sizeFor x, template) (by simp [hentries]) cell hcell

end CommandLine

end RegionGrid
