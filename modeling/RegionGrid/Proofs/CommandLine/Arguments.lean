import RegionGrid.CommandLine.Options
import Mathlib.Data.List.TakeDrop
import Mathlib.Tactic.SplitIfs

/-!
# Arguments at the end

What the program accepts it still accepts with one more option at the end, and reads the arguments before that
as without it: two hyphens and other arguments that are no options are refused wherever they stand, and so is an
option that lacks its value at the end. Of two values for one option the last one counts.
-/

namespace RegionGrid

namespace Options

variable {r r' : Reading} {options : Options} {arguments more : List Argument} {switch : Switch}
  {text value : String} {texts : List String}

theorem Reading.leftOver_of_named? (hnamed : r.named? switch = some r') : r'.leftOver = r.leftOver := by
  unfold named? at hnamed
  split at hnamed
  · split_ifs at hnamed
    cases hnamed
    rfl
  · split_ifs at hnamed
    cases hnamed
    rfl
  · cases hnamed
    rfl

theorem Reading.leftOver_of_set? (hset : r.set? switch value = some r') : r'.leftOver = r.leftOver := by
  unfold set? at hset
  obtain ⟨named, hnamed, hgiven⟩ := Option.bind_eq_some_iff.mp hset
  rw [← leftOver_of_named? hnamed]
  dsimp only at hgiven
  split_ifs at hgiven
  · cases hgiven
    rfl
  · obtain ⟨options, -, hgiven⟩ := Option.bind_eq_some_iff.mp hgiven
    cases hgiven
    rfl

/-- What is left over stays so, and then nothing is accepted. -/
theorem leftOver_of_read (hread : read r arguments = some r') : r.leftOver = false ∧ r'.leftOver = false := by
  fun_induction read r arguments with
  | case1 => cases hread
  | case2 r hleft =>
    cases hread
    simpa using hleft
  | case3 r rest ih => exact ih hread
  | case4 r switch value rest ih =>
    obtain ⟨next, hset, hread⟩ := Option.bind_eq_some_iff.mp hread
    rw [← Reading.leftOver_of_set? hset]
    exact ih next hread
  | case5 r switch value rest _ ih =>
    obtain ⟨next, hset, hread⟩ := Option.bind_eq_some_iff.mp hread
    rw [← Reading.leftOver_of_set? hset]
    exact ih next hread
  | case6 => cases hread
  | case7 => cases hread
  | case8 r text rest ih => cases (ih hread).1
  | case9 r rest ih => cases (ih hread).1

theorem stray_notMem_of_read (hread : read r arguments = some r') : .stray ∉ arguments := by
  fun_induction read r arguments with
  | case1 => cases hread
  | case2 => exact List.not_mem_nil
  | case3 r rest ih => simpa using ih hread
  | case4 r switch value rest ih =>
    obtain ⟨next, -, hread⟩ := Option.bind_eq_some_iff.mp hread
    simpa using ih next hread
  | case5 r switch value rest _ ih =>
    obtain ⟨next, -, hread⟩ := Option.bind_eq_some_iff.mp hread
    simpa using ih next hread
  | case6 => cases hread
  | case7 => cases hread
  | case8 r text rest ih => simpa using ih hread
  | case9 r rest ih => cases (leftOver_of_read hread).1

theorem read_append (hread : read r arguments = some r') : read r (arguments ++ more) = read r' more := by
  fun_induction read r arguments with
  | case1 => cases hread
  | case2 r hleft =>
    cases hread
    rfl
  | case3 r rest ih => exact ih hread
  | case4 r switch value rest ih =>
    obtain ⟨next, hset, hread⟩ := Option.bind_eq_some_iff.mp hread
    rw [List.cons_append, read, hset, ← ih next hread]
    rfl
  | case5 r switch value rest hswitch ih =>
    obtain ⟨next, hset, hread⟩ := Option.bind_eq_some_iff.mp hread
    rw [List.cons_append, List.cons_append, read, hset, ← ih next hread]
    · rfl
    · exact hswitch
  | case6 => cases hread
  | case7 => cases hread
  | case8 r text rest ih => exact ih hread
  | case9 r rest ih => exact ih hread

/-! ### Texts of arguments -/

theorem ofTexts?_append {more : List String} (hplain : "--" ∉ texts) :
    Argument.ofTexts? (texts ++ more) =
      (Argument.ofTexts? texts).bind fun before => (Argument.ofTexts? more).map (before ++ ·) := by
  induction texts with
  | nil => simp [Argument.ofTexts?]
  | cons text texts ih =>
    obtain ⟨htext, hplain⟩ := List.ne_and_not_mem_of_not_mem_cons hplain
    simp only [List.cons_append, Argument.ofTexts?, htext.symm, if_false, ih hplain]
    cases Argument.ofText? text with
    | none => rfl
    | some first =>
      cases Argument.ofTexts? texts with
      | none => rfl
      | some before =>
        cases Argument.ofTexts? more with
        | none => rfl
        | some after => simp

theorem stray_mem_of_ofTexts? (htexts : Argument.ofTexts? texts = some arguments) (hmem : "--" ∈ texts) :
    .stray ∈ arguments := by
  induction texts generalizing arguments with
  | nil => cases hmem
  | cons text texts ih =>
    rw [Argument.ofTexts?] at htexts
    split_ifs at htexts with htext
    · cases htexts
      exact List.mem_cons_self
    · obtain ⟨first, -, hmore⟩ := Option.bind_eq_some_iff.mp htexts
      obtain ⟨rest, hrest, hgiven⟩ := Option.bind_eq_some_iff.mp hmore
      cases hgiven
      exact List.mem_append_right _ (ih hrest ((List.mem_cons.mp hmem).resolve_left (Ne.symm htext)))

theorem exists_read_of_ofArguments? (haccepted : ofArguments? texts = some options) :
    ∃ arguments r, Argument.ofTexts? texts = some arguments ∧ read {} arguments = some r ∧ r.options = options := by
  obtain ⟨arguments, htexts, hread⟩ := Option.bind_eq_some_iff.mp haccepted
  obtain ⟨r, hread, hgiven⟩ := Option.bind_eq_some_iff.mp hread
  exact ⟨arguments, r, htexts, hread, Option.some.inj hgiven⟩

theorem ofText?_only (list : String) :
    Argument.ofText? ("--only=" ++ list) = some [.option .only (some list)] := by
  have htext : ("--only=" ++ list).toList = '-' :: '-' :: 'o' :: 'n' :: 'l' :: 'y' :: '=' :: list.toList := by
    rw [String.toList_append]
    rfl
  have hsplit : Argument.splitAssignment ('-' :: '-' :: 'o' :: 'n' :: 'l' :: 'y' :: '=' :: list.toList) =
      (['-', '-', 'o', 'n', 'l', 'y'], some list.toList) := by
    rw [Argument.splitAssignment, List.span_eq_takeWhile_dropWhile]
    rfl
  have hspelling : Switch.ofSpelling? ['-', '-', 'o', 'n', 'l', 'y'] = some .only := by decide
  simp [Argument.ofText?, htext, hsplit, hspelling, Argument.ofLong, Switch.takesValue]

/-- A list of names at the end is asked for in place of any before it. -/
theorem ofArguments?_append_only {list : String} (haccepted : ofArguments? texts = some options)
    (hlist : list ≠ "--") :
    ofArguments? (texts ++ ["--only=" ++ list]) =
      some { options with only := some list, withoutValue := options.withoutValue.filter (· ≠ .only) } := by
  obtain ⟨arguments, r, htexts, hread, rfl⟩ := exists_read_of_ofArguments? haccepted
  have hplain : "--" ∉ texts := fun hmem => stray_notMem_of_read hread (stray_mem_of_ofTexts? htexts hmem)
  have hname : "--only=" ++ list ≠ "--" := fun heq => by
    simpa using congrArg String.toList heq
  have hlast : Argument.ofTexts? ["--only=" ++ list] = some [.option .only (some list)] := by
    rw [Argument.ofTexts?, if_neg hname, ofText?_only]
    rfl
  have hall : Argument.ofTexts? (texts ++ ["--only=" ++ list]) = some (arguments ++ [.option .only (some list)]) := by
    rw [ofTexts?_append hplain, htexts, hlast]
    rfl
  have hleft : r.leftOver = false := (leftOver_of_read hread).2
  simp only [ofArguments?, hall, Option.bind_eq_bind, Option.bind_some, read_append hread, read]
  simp [Reading.set?, Reading.named?, setText?, hlist, hleft]

end Options

end RegionGrid
