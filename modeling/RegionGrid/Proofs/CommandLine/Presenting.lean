import RegionGrid.Proofs.CommandLine.Loading
import RegionGrid.Proofs.CommandLine.Placing

/-!
# What a run prints

A run that has loaded a layout places all of its regions and leaves out those that are not asked for; then it
prints a heading, a rule and a line for each region that is left, if each of them can be printed. Drawing the
regions comes afterwards and prints nothing.
-/

namespace RegionGrid

namespace CommandLine

open RegionGrid.Action

variable {env : Environment} {options : Options} {tree : FileTree} {o o' o'' : Output}
  {layout : AdaptiveLayout Float} {room width height : Nat} {rects : List (String × Rect Float)}

/-- The lines that tell of some regions of a layout in a container. -/
def reportLines (layout : AdaptiveLayout Float) (size : Nat × Nat) (shown : List (String × Rect Float)) :
    List String :=
  Report.heading layout.name size.1 size.2 (layout.breakpoints.sizeForWhole size.1) :: Report.rule ::
    shown.map fun (name, rect) => Report.regionLine name rect

/-- The names that the options ask for; none if they ask for every region. -/
def askedNames (options : Options) : Option (List String) := (options.only.filter (· ≠ "")).map wantedNames

/-! ### Drawing -/

theorem silent_writePicture {shown : String} {picture : Picture} : Silent (writePicture env tree shown picture) := by
  unfold writePicture
  dsimp only
  split
  · next format _ =>
    by_cases hwritable : format.isWritable = true
    · simp only [hwritable, if_true]
      refine silent_orStop.bind fun path => silent_orStop.bind fun _ => ?_
      split
      · exact silent_throw
      · exact .bind (fun _ => rfl) fun _ => silent_record
    · simp only [hwritable, Bool.false_eq_true, if_false]
      exact silent_throw
  · exact silent_throw

theorem silent_render {spelling : String} : Silent (render env tree spelling width height rects) := by
  unfold render
  refine silent_record.bind fun _ => silent_orStop.bind fun boxes => ?_
  split
  · exact silent_orStop.bind fun labels => silent_writePicture
  · exact silent_throw

/-- What is left to do once the regions are listed. -/
def draw (env : Environment) (tree : FileTree) (options : Options) (shown : List (String × Rect Float)) :
    Action Unit :=
  match options.render.filter (· ≠ "") with
  | none => pure ()
  | some spelling => render env tree spelling options.size.1 options.size.2 shown

theorem silent_draw : Silent (draw env tree options rects) := by
  unfold draw
  cases options.render.filter (· ≠ "") with
  | none => exact silent_pure
  | some spelling => exact silent_render

/-! ### Presenting -/

theorem present_eq : present env tree options layout = (do
    let shown ← place (env.room .missing) layout options.size.1 options.size.2 (askedNames options)
    checkName (env.room .heading) layout.name
    print env.prints (reportLines layout options.size shown)
    draw env tree options shown) := rfl

theorem result_place_askedNames
    (hplace : (place room layout options.size.1 options.size.2 none).result o = (.ok rects, o')) :
    (place room layout options.size.1 options.size.2 (askedNames options)).result o =
      (.ok (rects.filter fun region => isWanted (askedNames options) region.1), o') := by
  rw [place_eq_filter, result_map, hplace]
  rfl

/-- The lines that a run prints which has placed some regions and lists those that it is asked for. -/
def askedLines (layout : AdaptiveLayout Float) (options : Options) (rects : List (String × Rect Float)) : List String :=
  reportLines layout options.size (rects.filter fun region => isWanted (askedNames options) region.1)

theorem result_present (hname : layout.name.obstacle? (env.room .heading) = none)
    (hplace : (place (env.room .missing) layout options.size.1 options.size.2 none).result o = (.ok rects, o'))
    (hlines : ∀ line ∈ askedLines layout options rects, env.prints line = true) :
    (present env tree options layout).result o =
      (draw env tree options (rects.filter fun region => isWanted (askedNames options) region.1)).result
        { o' with printed := o'.printed ++ askedLines layout options rects } := by
  simp only [present_eq, result_bind, result_place_askedNames hplace, checkName_of_shown hname, result_pure]
  rw [← askedLines, result_print hlines]

/-! ### Runs -/

/-- A run has loaded a layout and placed all of its regions, and it can show the name of the layout. -/
structure HasPlaced (env : Environment) (options : Options) (tree : FileTree) (layout : AdaptiveLayout Float)
    (rects : List (String × Rect Float)) (o o' o'' : Output) : Prop where
  opens : Opens env options tree o
  loaded : (loadLayout env tree options).result o = (.ok (.ok layout), o')
  sized : .size ∉ options.withoutValue
  named : layout.name.obstacle? (env.room .heading) = none
  placed : (place (env.room .missing) layout options.size.1 options.size.2 none).result o' = (.ok rects, o'')

/-- A run that presents a layout without a failure has placed its regions, shown its name and printed its lines. -/
theorem exists_hasPlaced_of_goOn {code : Nat} (hopens : Opens env options tree o)
    (hloaded : (loadLayout env tree options).result o = (.ok (.ok layout), o'))
    (hok : (goOn env tree options layout).result o' = (.ok code, o'')) : ∃ rects o'',
      HasPlaced env options tree layout rects o o' o'' ∧
        ∀ line ∈ askedLines layout options rects, env.prints line = true := by
  have hsized : .size ∉ options.withoutValue := fun hunsized => by
    simp [goOn, hunsized] at hok
  simp only [goOn, List.contains_eq_mem, hsized, decide_false, Bool.false_eq_true, if_false] at hok
  obtain ⟨_, o₁, hpresent, -⟩ := result_bind_eq_ok_iff.mp hok
  rw [present_eq, result_bind_eq_ok_iff] at hpresent
  obtain ⟨shown, o₂, hplace, hrest⟩ := hpresent
  obtain ⟨_, o₃, hname, hrest⟩ := result_bind_eq_ok_iff.mp hrest
  obtain ⟨_, o₄, hprinted, -⟩ := result_bind_eq_ok_iff.mp hrest
  have hnamed := (checkName_eq_ok_iff.mp hname).1
  have hlines := (result_print_eq_ok_iff.mp hprinted).1
  rw [place_eq_filter, result_map] at hplace
  cases hplaced : (place (env.room .missing) layout options.size.1 options.size.2 none).result o' with
  | mk given o₅ =>
    rw [hplaced] at hplace
    cases given with
    | error e => cases hplace
    | ok rects =>
      cases hplace
      exact ⟨rects, o₅, ⟨hopens, hloaded, hsized, hnamed, hplaced⟩, hlines⟩

theorem exists_hasPlaced_of_exit (hexit : (runOptions env options).1 = .exit 0) : ∃ tree layout rects o o' o'',
    HasPlaced env options tree layout rects o o' o'' ∧
      ∀ line ∈ askedLines layout options rects, env.prints line = true := by
  obtain ⟨tree, o, o', hopens, ⟨layout, _, hloaded, hrest⟩ | ⟨hcode, -⟩⟩ := exists_loaded_of_exit hexit
  · obtain ⟨rects, o'', hplaced, hlines⟩ := exists_hasPlaced_of_goOn hopens hloaded hrest
    exact ⟨tree, layout, rects, o, o', o'', hplaced, hlines⟩
  · cases hcode

namespace HasPlaced

theorem unprinted (hplaced : HasPlaced env options tree layout rects o o' o'') : o''.printed = [] := by
  have hsilent : Silent (place (env.room .missing) layout options.size.1 options.size.2 none) := silent_place
  simpa [hplaced.placed, printed_of_loaded hplaced.opens hplaced.loaded] using hsilent o'

/-- What a run does from there if its lines can be printed. -/
theorem runs (hplaced : HasPlaced env options tree layout rects o o' o'')
    (hlines : ∀ line ∈ askedLines layout options rects, env.prints line = true) :
    (runOptions env options).2.printed = askedLines layout options rects ∧
      (options.render.filter (· ≠ "") = none →
        runOptions env options = (.exit 0, { o'' with printed := askedLines layout options rects })) := by
  let shown := rects.filter fun region => isWanted (askedNames options) region.1
  have hpresent : (present env tree options layout).result o' =
      (draw env tree options shown).result { o'' with printed := askedLines layout options rects } := by
    rw [result_present hplaced.named hplaced.placed hlines, hplaced.unprinted, List.nil_append]
  rw [runOptions_of_loaded hplaced.opens hplaced.loaded]
  simp only [goOn, List.contains_eq_mem, hplaced.sized, decide_false, Bool.false_eq_true, if_false, result_bind,
    hpresent, result_pure]
  constructor
  · have hdrawn : Silent (draw env tree options shown) := silent_draw
    have hprinted := hdrawn { o'' with printed := askedLines layout options rects }
    generalize (draw env tree options shown).result _ = given at *
    obtain ⟨e | _, o₁⟩ := given
    · exact hprinted
    · exact hprinted
  · intro hplain
    simp only [draw, hplain, result_pure]

end HasPlaced

end CommandLine

end RegionGrid
