import RegionGrid.Proofs.CommandLine.Presenting
import RegionGrid.Proofs.Loader.Session
import RegionGrid.Proofs.Number.Whole
import RegionGrid.Proofs.Track.Resolve

/-!
# The program and the library

The program loads a layout on its own, to tell in its log what it does, and places it in a container whose width
and height are natural numbers. It loads what a loader does that remembers nothing, and where doubles stand for
the width and the height, it places what the layout has in a container of these doubles. The one difference is a
name that is nested too deeply to be told: then the program stops.
-/

namespace RegionGrid

open Binary64 (StandsFor)

section Sizes

variable {b : Breakpoints Float} {layout : AdaptiveLayout Float} {width height : ℕ} {x y : Float}

theorem Breakpoints.sizeForWhole_eq_sizeFor (hx : StandsFor x width) : b.sizeForWhole width = b.sizeFor x := by
  have hbelow : Binary64.natLt width = fun threshold => decide (x < threshold) := funext fun threshold => by
    rw [Bool.eq_iff_iff, Binary64.natLt_iff hx, decide_eq_true_iff]
  rw [sizeForWhole, hbelow, sizeFor]

/-- All regions are placed, whichever of them are asked for. -/
theorem AdaptiveLayout.place_eq_filter (layout : AdaptiveLayout Float) (x y : Float) (names : Option (List String)) :
    (layout.place x y names).rects = (layout.place x y).rects.filter fun region => isWanted names region.1 := by
  rw [place, place]
  split_ifs with hempty
  · rfl
  · cases layout.templateFor? x with
    | none => rfl
    | some template => exact placeCells_eq_filter _ _ names template.plan

theorem resolve_zero_count (specs : List (TrackSize Float)) (extent : Float) : resolve specs extent 0 = [] :=
  List.length_eq_zero_iff.mp (length_resolve specs extent 0)

end Sizes

namespace CommandLine

open RegionGrid.Action

variable {env : Environment} {options : Options} {tree : FileTree} {o : Output} {layout : AdaptiveLayout Float}
  {room width height : ℕ} {names : Option (List String)} {x y : Float}

/-! ### Loading -/

/-- What a loader gives for the options that has loaded nothing before. -/
def freshlyLoaded (env : Environment) (tree : FileTree) (options : Options) : LoadAnswer :=
  match options.file.filter (· ≠ "") with
  | none => options.layout.layout.mapError .definition
  | some spelling => do
    let path ← (env.workingDirectory.ofSpelling spelling).mapError .file
    (({} : Loader).load env.reader tree path).1

/-- It is what the first step of a session answers. -/
theorem step_load_eq_freshlyLoaded {spelling : String} (hfile : options.file.filter (· ≠ "") = some spelling) :
    (Session.step { reader := env.reader, workingDirectory := env.workingDirectory, tree } (.load spelling)).1 =
      some (freshlyLoaded env tree options) := by
  simp only [Session.step, freshlyLoaded, hfile]
  cases env.workingDirectory.ofSpelling spelling <;> rfl

/-- The program loads what a fresh loader gives. -/
theorem result_loadLayout_eq_freshlyLoaded (env : Environment) (tree : FileTree) (options : Options) (o : Output) :
    ∃ o', (loadLayout env tree options).result o = (told env o.least (freshlyLoaded env tree options), o') := by
  rw [loadLayout, freshlyLoaded]
  cases options.file.filter (· ≠ "") with
  | none =>
    simp only [result_bind, result_record]
    exact result_readLayout _ _ _ _
  | some spelling =>
    dsimp only
    cases env.workingDirectory.ofSpelling spelling with
    | error e => exact ⟨o, rfl⟩
    | ok path =>
      simp only [result_bind, result_record]
      have hload : (({} : Loader).load env.reader tree path).1 = layoutOfFile env.reader tree path :=
        Loader.load_fst _ _ _ _
      change ∃ o', _ = (told env o.least (({} : Loader).load env.reader tree path).1, o')
      rw [hload, layoutOfFile]
      cases definitionOfFile env.reader tree path with
      | error e => exact ⟨_, rfl⟩
      | ok definition => exact result_readLayout _ _ _ _

/-! ### Placing -/

theorem axisSizes_eq {specs : List (TrackSize Float)} {count : ℕ} (hx : StandsFor x width) (hwidth : width ≠ 0) :
    axisSizes specs width count = .ok (resolve specs x count) := by
  rw [axisSizes]
  split_ifs with hcount
  · rw [hcount, Nat.cast_zero, resolve_zero_count]
  · rw [hx.ofInt?_eq hwidth]

/-- What is placed in a container of whole size is what the layout has in a container of the same size. -/
theorem wholePlaced_eq_place (hx : StandsFor x width) (hy : StandsFor y height) :
    wholePlaced room layout width height names =
      let placed := layout.place x y names
      if placed.missing.isSome ∧ layout.name.obstacle? room = some .tooDeep then .error .tooDeep
      else .ok placed.rects := by
  rw [wholePlaced, AdaptiveLayout.place]
  simp only [hx.nonpos_iff, hy.nonpos_iff]
  by_cases hempty : width = 0 ∨ height = 0
  · simp [hempty]
  · obtain ⟨hwidth, hheight⟩ := not_or.mp hempty
    rw [if_neg hempty, if_neg hempty, Breakpoints.sizeForWhole_eq_sizeFor hx, ← AdaptiveLayout.sizeFor,
      ← AdaptiveLayout.templateFor?]
    cases layout.templateFor? x with
    | none => simp
    | some template =>
      dsimp only
      rw [axisSizes_eq hx hwidth, axisSizes_eq hy hheight]
      simp [GridTemplate.place, layOut, bind, Except.bind, pure, Except.pure]

/-- The program places what the library places, and stops only where a warning shows too deep a name. -/
theorem places_iff_eq_place {rects : List (String × Rect Float)} (hx : StandsFor x width) (hy : StandsFor y height) :
    Places env layout (width, height) rects ↔ (layout.place x y).rects = rects ∧
      ((layout.place x y).missing.isSome = true → layout.name.obstacle? (env.room .missing) ≠ some .tooDeep) := by
  rw [places_iff, wholePlaced_eq_place hx hy]
  dsimp only
  split_ifs with hdeep
  · exact iff_of_false nofun fun h => h.2 hdeep.1 hdeep.2
  · rw [Except.ok.injEq]
    tauto

/-! ### Runs -/

/-- A name can be shown wherever the program shows it. -/
def NameShown (env : Environment) (layout : AdaptiveLayout Float) : Prop :=
  ∀ saying, layout.name.obstacle? (env.room saying) = none

theorem result_loadLayout_of_freshlyLoaded (hloaded : freshlyLoaded env tree options = .ok layout)
    (hname : NameShown env layout) : ∃ o', (loadLayout env tree options).result o = (.ok (.ok layout), o') := by
  obtain ⟨o', hread⟩ := result_loadLayout_eq_freshlyLoaded env tree options o
  have hshown : ¬ NameTooDeep env o.least layout := fun hdeep => by simp [NameTooDeep, hname .loaded] at hdeep
  rw [hloaded, told, if_neg hshown] at hread
  exact ⟨o', hread⟩

/-- The program lists what the library places, and ends well if there is nothing to draw. -/
theorem runOptions_of_freshlyLoaded (hopens : Opens env options tree o)
    (hloaded : freshlyLoaded env tree options = .ok layout) (hname : NameShown env layout)
    (hsized : .size ∉ options.withoutValue) (hx : StandsFor x options.size.1) (hy : StandsFor y options.size.2) :
    let lines := reportLines layout options.size (layout.place x y (askedNames options)).rects
    (∀ line ∈ lines, env.prints line = true) → (runOptions env options).2.printed = lines ∧
      (options.render.filter (· ≠ "") = none → (runOptions env options).1 = .exit 0) := by
  intro lines hlines
  let rects := (layout.place x y).rects
  obtain ⟨o₁, hread⟩ := result_loadLayout_of_freshlyLoaded (o := o) hloaded hname
  obtain ⟨o₂, hplaced⟩ : ∃ o₂,
      (place (env.room .missing) layout options.size.1 options.size.2 none).result o₁ = (.ok rects, o₂) := by
    refine ⟨_, Prod.ext ((gives_place o₁).trans ?_) rfl⟩
    simp [wholePlaced_eq_place hx hy, hname .missing, rects]
  have hlisted : askedLines layout options rects = lines := congrArg (reportLines layout options.size)
    (layout.place_eq_filter x y (askedNames options)).symm
  have hruns := HasPlaced.runs ⟨hopens, hread, hsized, hname .heading, hplaced⟩
  rw [hlisted] at hruns
  refine ⟨(hruns hlines).1, fun hplain => ?_⟩
  rw [(hruns hlines).2 hplain]

/-! ### The default layout -/

theorem isDefinition_holyGrail : Definition.IsDefinition Bundled.holyGrail.definition := by
  have hascend := And.intro Breakpoints.default.compact_le_medium Breakpoints.default.medium_le_expanded
  refine .intro none .absent hascend rfl (List.cons_ne_nil _ _) fun e he => ?_
  simp only [List.map_cons, List.map_nil, List.mem_cons, List.not_mem_nil, or_false] at he
  obtain rfl | rfl | rfl | rfl := he
  · exact .intro .compact none rfl (.listed _ none) ⟨[], .listed none .nil⟩
      ⟨_, .listed none (.cons rfl <| .cons rfl <| .cons rfl <| .cons rfl <| .cons rfl .nil)⟩ ⟨_, rfl⟩
  · exact .intro .medium none rfl (.listed _ none) ⟨_, .listed none (.cons rfl <| .cons rfl .nil)⟩
      ⟨_, .listed none (.cons rfl <| .cons rfl <| .cons rfl <| .cons rfl .nil)⟩ ⟨_, rfl⟩
  · exact .intro .expanded none rfl (.listed _ none) ⟨_, .listed none (.cons rfl <| .cons rfl <| .cons rfl .nil)⟩
      ⟨_, .listed none (.cons rfl <| .cons rfl <| .cons rfl <| .cons rfl .nil)⟩ ⟨_, rfl⟩
  · exact .intro .large none rfl (.listed _ none) ⟨_, .listed none (.cons rfl <| .cons rfl <| .cons rfl .nil)⟩
      ⟨_, .listed none (.cons rfl <| .cons rfl <| .cons rfl .nil)⟩ ⟨_, rfl⟩

theorem exists_holyGrail : ∃ layout, Bundled.holyGrail.layout = .ok layout ∧ layout.name = .string "holy_grail" := by
  obtain ⟨layout, hlayout⟩ : ∃ layout, Bundled.holyGrail.layout = .ok layout :=
    Definition.exists_layout_eq_ok_iff.mpr isDefinition_holyGrail
  refine ⟨layout, hlayout, ?_⟩
  cases Definition.layout_eq_ok_iff.mp hlayout with
  | built _ _ hname => exact hname

/-- Options that name neither a file nor another layout ask for the default one, whose name can be shown. -/
theorem exists_freshlyLoaded_default (hfile : options.file = none) (hlayout : options.layout = .holyGrail) :
    ∃ layout, Bundled.holyGrail.layout = .ok layout ∧ freshlyLoaded env tree options = .ok layout ∧
      NameShown env layout := by
  obtain ⟨layout, hgiven, hname⟩ := exists_holyGrail
  refine ⟨layout, hgiven, ?_, fun saying => ?_⟩
  · simp only [freshlyLoaded, hfile, hlayout, hgiven]
    rfl
  · rw [hname]
    rfl

/-- A terminal that prints every line. -/
def openTerminal : Environment := { prints := fun _ => true }

end CommandLine

end RegionGrid
