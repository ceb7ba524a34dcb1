import RegionGrid.Proofs.CommandLine.Presenting
import RegionGrid.Proofs.Files.Refusal
import RegionGrid.Proofs.Image.Labels

/-!
# Value errors, part by part

Which parts of the program fail because a value makes no sense, and where. Opening the log fails for the spelling
of the log file alone, and loading and placing a layout never do. What is left is to list the regions and to draw
them: the name of the layout may have a number with too many digits, a line may be one that cannot be printed, a
region one that cannot be drawn, and the picture one that cannot be written. These come one after the other.
-/

namespace RegionGrid

/-- The failures that say that a value makes no sense, those of YAML texts included. -/
def Failure.isValueError : Failure → Bool
  | noSize | unwritableName | unprintable _ => true
  | file e => e.isRefusal
  | yaml fault => fault.isReported
  | picture e => e.isValueError
  | noLayout | tooLarge | tooDeep => false

@[simp] theorem Failure.isValueError_file {e : FileError} : (file e).isValueError = e.isRefusal := rfl

@[simp] theorem Failure.isValueError_picture {e : PictureError} : (picture e).isValueError = e.isValueError := rfl

namespace CommandLine

open RegionGrid.Action

variable {env : Environment} {options : Options} {tree : FileTree} {o : Output} {layout : AdaptiveLayout Float}
  {room width height : Nat} {names : Option (List String)}

/-! ### Opening the log -/

theorem fails_openLog_iff : Fails (·.isValueError = true) (openLog env options) o ↔
    ∃ spelling, options.logFile = some spelling ∧ (Path.refusal? spelling).isSome = true := by
  simp only [openLog, fails_orStop_bind, fails_modify_bind, fails_record_bind, not_fails_pure, and_false, exists_false,
    or_false, Failure.isValueError_file]
  cases hgiven : options.logFile.filter (· ≠ "") with
  | none =>
    have hunnamed : ¬ ∃ spelling, options.logFile = some spelling ∧ (Path.refusal? spelling).isSome = true := by
      rintro ⟨spelling, hsome, hrefused⟩
      have hempty : spelling = "" := by simpa using Option.filter_eq_none_iff.mp hgiven spelling hsome
      rw [hempty] at hrefused
      cases hrefused
    refine iff_of_false ?_ hunnamed
    rintro (hfails | ⟨path?, hpath, hfails⟩)
    · exact not_failsWith_pure hfails
    · cases hpath
      exact not_failsWith_ok hfails
  | some spelling =>
    have hnamed : options.logFile = some spelling := (Option.filter_eq_some_iff.mp hgiven).1
    have hmapped : (some spelling).mapM (Path.ofWholeSpelling env.workingDirectory) =
        some <$> env.workingDirectory.ofWholeSpelling spelling := rfl
    simp only [hnamed, Option.some.injEq, exists_eq_left', hmapped, map_eq_pure_bind, failsWith_bind_iff,
      Path.failsWith_ofWholeSpelling_iff, not_failsWith_pure, and_false, exists_false, or_false, bind_eq_ok_iff]
    constructor
    · rintro (⟨e, hrefused, -⟩ | ⟨_, ⟨path, -, hpath⟩, hfails⟩)
      · simp [hrefused]
      · cases hpath
        exact absurd hfails FileTree.not_failsWith_write
    · intro hrefused
      obtain ⟨e, hrefused⟩ := Option.isSome_iff_exists.mp hrefused
      exact .inl ⟨e, hrefused, Path.isRefusal_of_refusal? hrefused⟩

/-! ### Placing -/

theorem not_failsWith_axisSizes {specs : List (TrackSize Float)} {whole count : Nat} :
    ¬ FailsWith (·.isValueError = true) (axisSizes specs whole count) := by
  rw [axisSizes]
  split_ifs
  · exact not_failsWith_ok
  · cases Binary64.ofInt? whole with
    | none => exact failsWith_error_iff.not.mpr Bool.false_ne_true
    | some x => exact not_failsWith_ok

theorem not_failsWith_wholePlaced :
    ¬ FailsWith (·.isValueError = true) (wholePlaced room layout width height names) := by
  rw [wholePlaced]
  by_cases hempty : width = 0 ∨ height = 0
  · rw [if_pos hempty]
    exact not_failsWith_ok
  · rw [if_neg hempty]
    cases layout.template? (layout.breakpoints.sizeForWhole width) with
    | none =>
      dsimp only
      split_ifs
      · exact failsWith_error_iff.not.mpr Bool.false_ne_true
      · exact not_failsWith_ok
    | some template =>
      simp only [failsWith_bind_iff, not_failsWith_axisSizes, not_failsWith_pure, and_false, exists_false, or_false,
        not_false_eq_true]

/-! ### Drawing -/

section Drawing

variable {spelling : String} {rects : List (String × Rect Float)} {picture : Picture}

/--
Writing a picture fails for a value error: the extension of the file names no format, the spelling of the file is
refused, or the encoder finds that the picture makes no sense.
-/
inductive WritingFails (env : Environment) (tree : FileTree) (shown : String) (picture : Picture) : Prop
  | extension (hunknown : env.library.format? (Path.lowerExtension shown) = none)
  | spelling {format : PictureFormat} (hformat : env.library.format? (Path.lowerExtension shown) = some format)
      (hwritable : format.isWritable = true) (hrefused : (Path.refusal? shown).isSome = true)
  | encoding {format : PictureFormat} {path : Path} {written : FileTree} {e : PictureError}
      (hformat : env.library.format? (Path.lowerExtension shown) = some format)
      (hwritable : format.isWritable = true) (hpath : tree.locate env.workingDirectory shown = .ok path)
      (hwritten : tree.write path [] = .ok written) (hobstacle : env.library.obstacle? format picture = some e)
      (he : e.isValueError = true)

/-- Drawing regions and writing the picture fails for a value error: at a region, or when the picture is written. -/
inductive DrawingFails (env : Environment) (tree : FileTree) (spelling : String) (width height : Nat)
    (rects : List (String × Rect Float)) : Prop
  | region {boxes : Picture} {drawn rest : List (String × Rect Float)} {region : String × Rect Float}
      (hboxes : Picture.ofRects pixelCoordinate .standard width height rects = .ok boxes)
      (hmemory : env.library.hasMemory width height = true) (hrects : rects = drawn ++ region :: rest)
      (hdrawn : ∀ other ∈ drawn, Picture.Drawable env.library.font DrawingStyle.standard.gap other)
      (hregion : Picture.Undrawable env.library.font DrawingStyle.standard.gap region.1 region.2)
  | writing {boxes : Picture} {labels : List RegionLabel}
      (hboxes : Picture.ofRects pixelCoordinate .standard width height rects = .ok boxes)
      (hmemory : env.library.hasMemory width height = true)
      (hlabels : Picture.labelsOf env.library.font DrawingStyle.standard.gap rects = .ok labels)
      (hwriting : WritingFails env tree (Path.tidied spelling) { boxes with labels })

theorem sizeError?_isValueError {e : PictureError} (hsize : sizeError? width height = some e) :
    e.isValueError = false := by
  have hsigned : ¬ ((width : Int) < 0 ∨ (height : Int) < 0) := by omega
  rw [sizeError?, if_neg hsigned] at hsize
  split_ifs at hsize
  all_goals
    cases hsize
    rfl

theorem fails_writePicture_iff {shown : String} :
    Fails (·.isValueError = true) (writePicture env tree shown picture) o ↔ WritingFails env tree shown picture := by
  rw [writePicture]
  cases hformat : env.library.format? (Path.lowerExtension shown) with
  | none => exact iff_of_true (fails_throw_iff.mpr rfl) (.extension hformat)
  | some format =>
    by_cases hwritable : format.isWritable = true
    · simp only [hwritable, if_true, fails_orStop_bind, Failure.isValueError_file, FileTree.failsWith_locate_iff,
        FileTree.not_failsWith_write, false_or]
      constructor
      · rintro (hrefused | ⟨path, hpath, written, hwritten, hfails⟩)
        · exact .spelling hformat hwritable hrefused
        · cases hobstacle : env.library.obstacle? format picture with
          | none => simp [hobstacle, fails_modify_bind] at hfails
          | some e => exact .encoding hformat hwritable hpath hwritten hobstacle (by simpa [hobstacle] using hfails)
      · intro hwriting
        cases hwriting with
        | extension hunknown => simp [hformat] at hunknown
        | spelling _ _ hrefused => exact .inl hrefused
        | encoding hformat' _ hpath hwritten hobstacle he =>
          obtain rfl : format = _ := Option.some.inj (hformat.symm.trans hformat')
          exact .inr ⟨_, hpath, _, hwritten, by simpa [hobstacle] using he⟩
    · simp only [hwritable, Bool.false_eq_true, if_false, fails_throw_bind]
      refine iff_of_false Bool.false_ne_true fun hwriting => ?_
      cases hwriting with
      | extension hunknown => simp [hformat] at hunknown
      | spelling hformat' hwritable' _ => exact hwritable (Option.some.inj (hformat.symm.trans hformat') ▸ hwritable')
      | encoding hformat' hwritable' => exact hwritable (Option.some.inj (hformat.symm.trans hformat') ▸ hwritable')

theorem fails_render_iff : Fails (·.isValueError = true) (render env tree spelling width height rects) o ↔
    DrawingFails env tree spelling width height rects := by
  simp only [render, fails_record_bind, fails_orStop_bind]
  cases hboxes : Picture.ofRects pixelCoordinate .standard width height rects with
  | error e =>
    have he : e.isValueError = false := sizeError?_isValueError (Picture.ofRects_eq_error_iff.mp hboxes)
    simp only [failsWith_error_iff, Failure.isValueError_picture, he, Bool.false_eq_true, reduceCtorEq, false_and,
      exists_false, or_false, false_iff]
    intro hfails
    cases hfails with
    | region hboxes' => simp [hboxes] at hboxes'
    | writing hboxes' => simp [hboxes] at hboxes'
  | ok boxes =>
    simp only [not_failsWith_ok, false_or, Except.ok.injEq, exists_eq_left']
    by_cases hmemory : env.library.hasMemory width height = true
    · simp only [hmemory, if_true, fails_orStop_bind, Failure.isValueError_picture, fails_writePicture_iff]
      constructor
      · rintro (hregions | ⟨labels, hlabels, hwriting⟩)
        · obtain ⟨_, _, _, hrects, hdrawn, hregion⟩ := Picture.failsWith_labelsOf_iff.mp hregions
          exact .region hboxes hmemory hrects hdrawn hregion
        · exact .writing hboxes hmemory hlabels hwriting
      · intro hfails
        cases hfails with
        | region _ _ hrects hdrawn hregion =>
          exact .inl (Picture.failsWith_labelsOf_iff.mpr ⟨_, _, _, hrects, hdrawn, hregion⟩)
        | writing hboxes' _ hlabels hwriting =>
          obtain rfl : boxes = _ := Except.ok.inj (hboxes.symm.trans hboxes')
          exact .inr ⟨_, hlabels, hwriting⟩
    · simp only [hmemory, Bool.false_eq_true, if_false, fails_throw_bind]
      refine iff_of_false Bool.false_ne_true fun hfails => ?_
      cases hfails with
      | region _ hmemory' => exact hmemory hmemory'
      | writing _ hmemory' => exact hmemory hmemory'

end Drawing

/-! ### Presenting -/

/-- A picture is asked for, and it cannot be drawn or written for a value error. -/
def PictureFails (env : Environment) (tree : FileTree) (options : Options) (shown : List (String × Rect Float)) :
    Prop :=
  ∃ spelling, options.render = some spelling ∧ spelling ≠ "" ∧
    DrawingFails env tree spelling options.size.1 options.size.2 shown

theorem fails_draw_iff {shown : List (String × Rect Float)} :
    Fails (·.isValueError = true) (draw env tree options shown) o ↔ PictureFails env tree options shown := by
  rw [draw, PictureFails]
  cases hgiven : options.render.filter (· ≠ "") with
  | none =>
    refine iff_of_false not_fails_pure ?_
    rintro ⟨spelling, hsome, hnamed, -⟩
    exact hnamed (by simpa using Option.filter_eq_none_iff.mp hgiven spelling hsome)
  | some spelling =>
    obtain ⟨hsome, hnamed⟩ := Option.filter_eq_some_iff.mp hgiven
    have hne : spelling ≠ "" := by simpa using hnamed
    simp [fails_render_iff, hsome, hne]

/-- The regions that a run lists: those that are asked for, where a layout and a size are given. -/
structure Lists (env : Environment) (options : Options) (layout : AdaptiveLayout Float)
    (shown : List (String × Rect Float)) : Prop where
  sized : .size ∉ options.withoutValue
  placed : wholePlaced (env.room .missing) layout options.size.1 options.size.2 (askedNames options) = .ok shown

/-- How a value error arises once a layout is loaded. -/
inductive PresentingFails (env : Environment) (tree : FileTree) (options : Options) (layout : AdaptiveLayout Float) :
    Prop
  | size (hunsized : .size ∈ options.withoutValue)
  | name {shown : List (String × Rect Float)} (hlists : Lists env options layout shown)
      (hdigits : layout.name.obstacle? (env.room .heading) = some .tooManyDigits)
  | line {shown : List (String × Rect Float)} {line : String} (hlists : Lists env options layout shown)
      (hname : layout.name.obstacle? (env.room .heading) = none) (hline : line ∈ reportLines layout options.size shown)
      (hunprinted : env.prints line = false)
  | picture {shown : List (String × Rect Float)} (hlists : Lists env options layout shown)
      (hname : layout.name.obstacle? (env.room .heading) = none)
      (hlines : ∀ line ∈ reportLines layout options.size shown, env.prints line = true)
      (hpicture : PictureFails env tree options shown)

theorem fails_present_iff : Fails (·.isValueError = true) (present env tree options layout) o ↔
    ∃ shown, wholePlaced (env.room .missing) layout options.size.1 options.size.2 (askedNames options) = .ok shown ∧
      (layout.name.obstacle? (env.room .heading) = some .tooManyDigits ∨
        layout.name.obstacle? (env.room .heading) = none ∧
          ((∃ line ∈ reportLines layout options.size shown, env.prints line = false) ∨
            (∀ line ∈ reportLines layout options.size shown, env.prints line = true) ∧
              PictureFails env tree options shown)) := by
  have hdigits : Failure.unwritableName.isValueError = true := rfl
  have hdeep : ¬ Failure.tooDeep.isValueError = true := Bool.false_ne_true
  have hunprinted (line : String) : (Failure.unprintable line).isValueError = true := rfl
  rw [present_eq, gives_place.fails_bind_iff fun shown o' => ?_, or_iff_right not_failsWith_wholePlaced]
  simp only [fails_bind_iff, fails_checkName_iff, fails_print_iff (P := (·.isValueError = true)) hunprinted,
    checkName_eq_ok_iff, result_print_eq_ok_iff, fails_draw_iff, hdigits, hdeep, Bool.false_eq_true]
  simp only [and_true, and_false, or_false, exists_const, and_assoc, exists_and_left, exists_eq_left']

theorem fails_goOn_iff : Fails (·.isValueError = true) (goOn env tree options layout) o ↔
    PresentingFails env tree options layout := by
  unfold goOn
  by_cases hunsized : .size ∈ options.withoutValue
  · simp only [List.contains_eq_mem, hunsized, decide_true, if_true, fails_throw_bind]
    exact iff_of_true rfl (.size hunsized)
  · simp only [List.contains_eq_mem, hunsized, decide_false, Bool.false_eq_true, if_false]
    simp only [fails_bind_iff, fails_present_iff, not_fails_pure, and_false, exists_false, or_false]
    constructor
    · rintro ⟨shown, hplaced, hdigits | ⟨hname, ⟨line, hline, hunprinted⟩ | ⟨hlines, hpicture⟩⟩⟩
      · exact .name ⟨hunsized, hplaced⟩ hdigits
      · exact .line ⟨hunsized, hplaced⟩ hname hline hunprinted
      · exact .picture ⟨hunsized, hplaced⟩ hname hlines hpicture
    · intro hfails
      cases hfails with
      | size hunsized' => exact absurd hunsized' hunsized
      | name hlists hdigits => exact ⟨_, hlists.placed, .inl hdigits⟩
      | line hlists hname hline hunprinted => exact ⟨_, hlists.placed, .inr ⟨hname, .inl ⟨_, hline, hunprinted⟩⟩⟩
      | picture hlists hname hlines hpicture => exact ⟨_, hlists.placed, .inr ⟨hname, .inr ⟨hlines, hpicture⟩⟩⟩

end CommandLine

end RegionGrid
