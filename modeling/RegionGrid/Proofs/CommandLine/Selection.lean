import RegionGrid.Proofs.CommandLine.Agreement
import RegionGrid.Proofs.CommandLine.Arguments
import RegionGrid.Proofs.Text.Pieces
import RegionGrid.Proofs.Text.Trim

/-!
# Runs that ask for some of the regions

A list with commas asks for the names in it, and a name is one of its pieces without the white space around it.
Main statement: next to the run that asks for every region, the one with a list prints the same heading and
rule and those lines of regions that the list asks for, and does nothing else in another way.
-/

namespace RegionGrid

variable {list name : String}

/-- A piece of the list between commas is the name, but for white space around it. A blank piece is none. -/
structure Selects (list name : String) : Prop where
  named : name ≠ ""
  piece : ∃ pieces, Chars.IsCut ',' list.toList pieces ∧ ∃ piece ∈ pieces, Chars.trim piece = name.toList

theorem mem_wantedNames_iff : name ∈ wantedNames list ↔ Selects list name := by
  have hpiece : (∃ piece ∈ list.toList.splitOnP (· == ','), String.ofList (Chars.trim piece) = name) ↔
      ∃ pieces, Chars.IsCut ',' list.toList pieces ∧ ∃ piece ∈ pieces, Chars.trim piece = name.toList := by
    simp only [← Chars.splitOn_eq_iff_isCut, exists_eq_left', List.splitOn_eq_splitOnP]
    refine exists_congr fun piece => and_congr_right fun _ => ?_
    rw [← String.toList_inj, String.toList_ofList]
  rw [wantedNames, List.mem_filter, List.mem_map, hpiece, decide_eq_true_iff]
  exact ⟨fun h => ⟨h.2, h.1⟩, fun h => ⟨h.piece, h.named⟩⟩

instance (list name : String) : Decidable (Selects list name) := decidable_of_iff _ mem_wantedNames_iff

theorem Selects.comma_notMem (hselects : Selects list name) : ',' ∉ name.toList := by
  obtain ⟨-, pieces, hcut, piece, hpiece, hname⟩ := hselects
  obtain ⟨before, after, hends, -, -⟩ := Chars.exists_eq_append_trimBy isBlank piece
  have hfree := hcut.free piece hpiece
  rw [hends, List.mem_append, List.mem_append] at hfree
  rw [← hname]
  exact fun hcomma => hfree (.inl (.inr hcomma))

namespace CommandLine

open RegionGrid.Action

variable {env : Environment} {options : Options} {tree : FileTree} {o o' o'' : Output}
  {layout : AdaptiveLayout Float} {rects : List (String × Rect Float)}

/-- The options with a list of names in them. -/
def selecting (options : Options) (list : String) : Options := { options with only := some list }

theorem askedLines_none (hall : options.only = none) :
    askedLines layout options rects = reportLines layout options.size rects := by
  simp [askedLines, askedNames, hall, isWanted]

theorem askedLines_selecting (hlist : list ≠ "") (render : Option String) :
    askedLines layout { selecting options list with render } rects =
      reportLines layout options.size (rects.filter fun region => Selects list region.1) := by
  have hasked : askedNames { selecting options list with render } = some (wantedNames list) := by
    have hkept : (some list).filter (· ≠ "") = some list := Option.filter_some_pos (decide_eq_true hlist)
    simp only [askedNames, selecting, hkept, Option.map_some]
  refine congrArg (reportLines layout options.size) (List.filter_congr fun region _ => ?_)
  rw [hasked, isWanted, Option.all_some, List.contains_eq_mem, decide_eq_decide]
  exact mem_wantedNames_iff

/-- The lines of some regions can be printed if those of all can. -/
theorem prints_reportLines_filter {asked : String × Rect Float → Bool}
    (hlines : ∀ line ∈ reportLines layout options.size rects, env.prints line = true) :
    ∀ line ∈ reportLines layout options.size (rects.filter asked), env.prints line = true := by
  have hkept : (reportLines layout options.size (rects.filter asked)).Sublist
      (reportLines layout options.size rects) := ((List.filter_sublist.map _).cons_cons _).cons_cons _
  exact fun line hline => hlines line (hkept.subset hline)

/-- Opening the log, loading and placing do not look at the two options that differ. -/
theorem hasPlaced_selecting (hplaced : HasPlaced env options tree layout rects o o' o'') (list : String)
    (render : Option String) :
    HasPlaced env { selecting options list with render } tree layout rects o o' o'' where
  opens := ⟨hplaced.opens.opened, hplaced.opens.named⟩
  loaded := hplaced.loaded
  sized := hplaced.sized
  named := hplaced.named
  placed := hplaced.placed

/-- Once a layout is loaded and placed, a list of names changes what is printed, and drawing does not. -/
theorem runOptions_selecting_of_hasPlaced (hplaced : HasPlaced env options tree layout rects o o' o'')
    (hlines : ∀ line ∈ reportLines layout options.size rects, env.prints line = true)
    (hlist : list ≠ "") (render : Option String) :
    let lines := reportLines layout options.size (rects.filter fun region => Selects list region.1)
    (runOptions env { selecting options list with render }).2.printed = lines ∧
      (render.filter (· ≠ "") = none →
        runOptions env { selecting options list with render } = (.exit 0, { o'' with printed := lines })) := by
  have hruns := (hasPlaced_selecting hplaced list render).runs
  rw [askedLines_selecting hlist] at hruns
  exact hruns (prints_reportLines_filter hlines)

theorem runOptions_congr_withoutValue (options : Options) {names names' : List Switch}
    (hlayout : .layout ∈ names ↔ .layout ∈ names') (hsize : .size ∈ names ↔ .size ∈ names') :
    runOptions env { options with withoutValue := names } = runOptions env { options with withoutValue := names' } := by
  have hperform : perform env { options with withoutValue := names } =
      perform env { options with withoutValue := names' } := by
    simp only [perform, List.contains_eq_mem, hlayout, hsize]
    rfl
  rw [runOptions, runOptions, hperform]

theorem run_append_only {arguments : List String} (haccepted : Options.ofArguments? arguments = some options)
    (hlist : list ≠ "--") : run env (arguments ++ ["--only=" ++ list]) = runOptions env (selecting options list) := by
  rw [run, Options.ofArguments?_append_only haccepted hlist]
  exact runOptions_congr_withoutValue (selecting options list) (by simp) (by simp)

/--
Of a run that asks for all regions and draws none, a list of names leaves the lines of those regions that it
selects, and changes nothing else. It prints the same where the regions are drawn. No name with a comma is
selected, lists that select the same regions of the layout do the same, and a list is given by one more argument.
-/
theorem runOptions_selecting (hall : options.only = none) (hplain : options.render = none) (hlist : list ≠ "")
    (hexit : (runOptions env options).1 = .exit 0) :
    let output := (runOptions env options).2
    ∃ tree layout rects, Loads env options tree layout ∧ Places env layout options.size rects ∧
      let shown := rects.filter fun region => Selects list region.1
      let lines := reportLines layout options.size shown
      output.printed = reportLines layout options.size rects ∧
      runOptions env (selecting options list) = (.exit 0, { output with printed := lines }) ∧
      (∀ render, (runOptions env { selecting options list with render }).2.printed = lines) ∧
      (∀ region ∈ shown, ',' ∉ region.1.toList) ∧
      (∀ other, other ≠ "" → (∀ region ∈ rects, Selects other region.1 ↔ Selects list region.1) →
        runOptions env (selecting options other) = runOptions env (selecting options list)) ∧
      ∀ arguments, Options.ofArguments? arguments = some options → list ≠ "--" →
        run env (arguments ++ ["--only=" ++ list]) = runOptions env (selecting options list) := by
  intro output
  obtain ⟨tree, layout, rects, o, o', o'', hplaced, hlines⟩ := exists_hasPlaced_of_exit hexit
  have hplainly : options.render.filter (· ≠ "") = none := by
    rw [hplain]
    rfl
  have hrun := (hplaced.runs hlines).2 hplainly
  rw [askedLines_none hall] at hlines hrun
  have hselecting (other : String) (hother : other ≠ "") (render : Option String) :=
    runOptions_selecting_of_hasPlaced hplaced hlines hother render
  let lines (other : String) := reportLines layout options.size (rects.filter fun region => Selects other region.1)
  have hlisting (other : String) (hother : other ≠ "") :
      runOptions env (selecting options other) = (.exit 0, { o'' with printed := lines other }) :=
    (hselecting other hother options.render).2 hplainly
  refine ⟨tree, layout, rects, ⟨o, o', hplaced.opens, hplaced.loaded⟩, ⟨o', o'', hplaced.placed⟩, ?_, ?_,
    fun render => ?_, fun region hregion => ?_, fun other hother hsame => ?_, fun arguments haccepted hvalue => ?_⟩
  · exact congrArg (·.2.printed) hrun
  · rw [hlisting list hlist]
    simp only [output, hrun]
    rfl
  · exact (hselecting list hlist render).1
  · exact Selects.comma_notMem (of_decide_eq_true (List.mem_filter.mp hregion).2)
  · have hlines : lines other = lines list := congrArg (reportLines layout options.size) <|
      List.filter_congr fun region hregion => decide_eq_decide.mpr (hsame region hregion)
    rw [hlisting other hother, hlisting list hlist, hlines]
  · exact run_append_only haccepted hvalue

theorem exits_openTerminal : (runOptions openTerminal {}).1 = .exit 0 := by
  let options : Options := {}
  have hopens : Opens openTerminal options {} ((openLog openTerminal options).result {}).2 := ⟨rfl, by decide⟩
  obtain ⟨layout, -, hloaded, hname⟩ := @exists_freshlyLoaded_default openTerminal options {} rfl rfl
  obtain ⟨x, hx⟩ : ∃ x, Binary64.StandsFor x options.size.1 := Binary64.exists_standsFor (by decide)
  obtain ⟨y, hy⟩ : ∃ y, Binary64.StandsFor y options.size.2 := Binary64.exists_standsFor (by decide)
  exact (runOptions_of_freshlyLoaded hopens hloaded hname (by decide) hx hy fun _ _ => rfl).2 rfl

/-- A blank piece and a piece that is repeated, in the layout that the program takes if none is named. -/
theorem runOptions_selecting_main :
    ({} : Options).only = none ∧ ({} : Options).render = none ∧ "main" ≠ "" ∧
      (runOptions openTerminal {}).1 = .exit 0 ∧
      runOptions openTerminal (selecting {} " main ,,main") = runOptions openTerminal (selecting {} "main") ∧
        run openTerminal ["--only=main"] = runOptions openTerminal (selecting {} "main") := by
  have hsame (name : String) : Selects " main ,,main" name ↔ Selects "main" name := by
    have hrepeated : wantedNames " main ,,main" = ["main", "main"] := by decide +kernel
    have honce : wantedNames "main" = ["main"] := by decide +kernel
    rw [← mem_wantedNames_iff, ← mem_wantedNames_iff, hrepeated, honce]
    simp
  have hmain : "main" ≠ "" := by decide
  obtain ⟨_, _, _, -, -, -, -, -, -, hother, hgiven⟩ := runOptions_selecting rfl rfl hmain exits_openTerminal
  exact ⟨rfl, rfl, hmain, exits_openTerminal, hother _ (by decide) fun region _ => hsame region.1,
    hgiven [] rfl (by decide)⟩

end CommandLine

end RegionGrid
