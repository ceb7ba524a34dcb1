import RegionGrid.Proofs.Assoc
import RegionGrid.Proofs.Run
import RegionGrid.Template.Memo
import Mathlib.Data.Finset.Dedup
import Mathlib.Data.Finset.Card
import Mathlib.Data.List.DropRight

/-!
# What a memo answers

A memo that starts empty holds one plan for each template that was compiled without an error since it was
last cleared, and this plan is the one that compiling the template gives. One step keeps this whatever it
hits, misses or fails at, so it holds after every run. Main statement: a run answers as if there was no
memo, and the memo is as large as the number of different templates that it was given and could compile.
-/

namespace RegionGrid.Memo

/-! ### What a memo should hold -/

def Step.rows? : Step → Option (List String)
  | .compile rows => some rows
  | .clear => none

/-- The templates that were compiled without an error since the plans were last forgotten. -/
def compiled (steps : List Step) : Finset (List String) :=
  (((steps.rtakeWhile (· ≠ .clear)).filterMap Step.rows?).filter fun rows =>
    (RegionGrid.compile rows).isOk).toFinset

variable {steps : List Step} {rows : List String} {plan : Plan}

theorem mem_compiled :
    rows ∈ compiled steps ↔
      .compile rows ∈ steps.rtakeWhile (· ≠ .clear) ∧ ∃ plan, RegionGrid.compile rows = .ok plan := by
  have hrows : ∀ step, Step.rows? step = some rows ↔ step = .compile rows := by
    intro step
    cases step with
    | compile other => simp [Step.rows?]
    | clear => simp [Step.rows?]
  have hok : (RegionGrid.compile rows).isOk = true ↔ ∃ plan, RegionGrid.compile rows = .ok plan := by
    cases RegionGrid.compile rows with
    | ok plan => simp [Except.isOk, Except.toBool]
    | error e => simp [Except.isOk, Except.toBool]
  rw [compiled, List.mem_toFinset, List.mem_filter, List.mem_filterMap, hok]
  simp only [hrows, exists_eq_right]

theorem compiled_concat_clear (steps : List Step) : compiled (steps ++ [.clear]) = ∅ := by
  ext rows
  rw [mem_compiled, List.rtakeWhile_concat]
  simp

theorem mem_compiled_concat {other : List String} :
    other ∈ compiled (steps ++ [.compile rows]) ↔
      other ∈ compiled steps ∨ other = rows ∧ ∃ plan, RegionGrid.compile rows = .ok plan := by
  simp only [mem_compiled, List.rtakeWhile_concat, ne_eq, reduceCtorEq, not_false_eq_true, decide_true,
    if_true, List.mem_append, List.mem_singleton, Step.compile.injEq, or_and_right]
  apply or_congr_right
  apply and_congr_right
  rintro rfl
  exact Iff.rfl

theorem compiled_concat_ok (hplan : RegionGrid.compile rows = .ok plan) (steps : List Step) :
    compiled (steps ++ [.compile rows]) = insert rows (compiled steps) := by
  ext other
  rw [mem_compiled_concat, Finset.mem_insert, hplan]
  simp [or_comm]

theorem compiled_concat_error {e : TemplateError} (herror : RegionGrid.compile rows = .error e)
    (steps : List Step) : compiled (steps ++ [.compile rows]) = compiled steps := by
  ext other
  rw [mem_compiled_concat, herror]
  simp

/-! ### What a memo holds -/

/-- The memo holds the plans of some templates, each once, and no others. -/
structure Remembers (memo : Memo) (kept : Finset (List String)) : Prop where
  nodup_rows : (memo.plans.map Prod.fst).Nodup
  rows_eq : (memo.plans.map Prod.fst).toFinset = kept
  compile_eq : ∀ entry ∈ memo.plans, RegionGrid.compile entry.1 = .ok entry.2

theorem remembers_empty : Remembers {} ∅ where
  nodup_rows := List.nodup_nil
  rows_eq := rfl
  compile_eq := by simp

namespace Remembers

variable {memo : Memo} {kept : Finset (List String)} (hmemo : memo.Remembers kept)

include hmemo

theorem size_eq : memo.size = kept.card := by
  rw [← hmemo.rows_eq, List.toFinset_card_of_nodup hmemo.nodup_rows, List.length_map, size]

theorem lookup_eq_some_iff :
    memo.plans.lookup rows = some plan ↔ rows ∈ kept ∧ RegionGrid.compile rows = .ok plan := by
  rw [lookup_eq_some_iff_mem hmemo.nodup_rows, ← hmemo.rows_eq, List.mem_toFinset]
  constructor
  · intro hentry
    exact ⟨List.mem_map_of_mem hentry, hmemo.compile_eq _ hentry⟩
  · intro h
    obtain ⟨hrows, hplan⟩ := h
    obtain ⟨⟨_, other⟩, hentry, rfl⟩ := List.mem_map.mp hrows
    cases (hmemo.compile_eq _ hentry).symm.trans hplan
    exact hentry

theorem exists_lookup_of_mem (hrows : rows ∈ kept) :
    ∃ plan, RegionGrid.compile rows = .ok plan ∧ memo.plans.lookup rows = some plan := by
  rw [← hmemo.rows_eq, List.mem_toFinset] at hrows
  obtain ⟨⟨_, plan⟩, hentry, rfl⟩ := List.mem_map.mp hrows
  exact ⟨plan, hmemo.compile_eq _ hentry, (lookup_eq_some_iff_mem hmemo.nodup_rows).mpr hentry⟩

/-! ### What a step does -/

theorem compile_of_mem (hrows : rows ∈ kept) : memo.compile rows = (RegionGrid.compile rows, memo) := by
  obtain ⟨plan, hplan, hlookup⟩ := hmemo.exists_lookup_of_mem hrows
  rw [Memo.compile, hlookup, hplan]

theorem compile_of_notMem (hrows : rows ∉ kept) :
    memo.compile rows = match RegionGrid.compile rows with
      | .ok plan => (.ok plan, ⟨(rows, plan) :: memo.plans⟩)
      | .error e => (.error e, memo) := by
  have hnone : memo.plans.lookup rows = none := by
    rw [Option.eq_none_iff_forall_ne_some]
    intro plan hlookup
    exact hrows (hmemo.lookup_eq_some_iff.mp hlookup).1
  cases hfresh : RegionGrid.compile rows with
  | ok plan => simp only [Memo.compile, hnone, hfresh]
  | error e => simp only [Memo.compile, hnone, hfresh]

theorem compile_of_error {e : TemplateError} (herror : RegionGrid.compile rows = .error e) :
    memo.compile rows = (.error e, memo) := by
  by_cases hrows : rows ∈ kept
  · rw [hmemo.compile_of_mem hrows, herror]
  · rw [hmemo.compile_of_notMem hrows, herror]

theorem compile_fst (rows : List String) : (memo.compile rows).1 = RegionGrid.compile rows := by
  by_cases hrows : rows ∈ kept
  · rw [hmemo.compile_of_mem hrows]
  · rw [hmemo.compile_of_notMem hrows]
    cases RegionGrid.compile rows with
    | ok plan => rfl
    | error e => rfl

theorem cons (hrows : rows ∉ kept) (hplan : RegionGrid.compile rows = .ok plan) :
    Remembers ⟨(rows, plan) :: memo.plans⟩ (insert rows kept) where
  nodup_rows := by
    rw [← hmemo.rows_eq, List.mem_toFinset] at hrows
    exact List.nodup_cons.mpr ⟨hrows, hmemo.nodup_rows⟩
  rows_eq := by rw [List.map_cons, List.toFinset_cons, hmemo.rows_eq]
  compile_eq := List.forall_mem_cons.mpr ⟨hplan, hmemo.compile_eq⟩

end Remembers

/-- What a step would answer if there was no memo. -/
def Step.fresh (step : Step) : Option (Except TemplateError Plan) := step.rows?.map RegionGrid.compile

/-- One step answers as if there was no memo, and the memo goes on to hold what it should. -/
theorem Remembers.step {memo : Memo} (hmemo : memo.Remembers (compiled steps)) (next : Step) :
    (memo.step next).1 = next.fresh ∧ (memo.step next).2.Remembers (compiled (steps ++ [next])) := by
  cases next with
  | clear => exact ⟨rfl, compiled_concat_clear steps ▸ remembers_empty⟩
  | compile rows =>
    refine ⟨congrArg some (hmemo.compile_fst rows), ?_⟩
    change (memo.compile rows).2.Remembers _
    cases hcompile : RegionGrid.compile rows with
    | error e => rwa [hmemo.compile_of_error hcompile, compiled_concat_error hcompile]
    | ok plan =>
      rw [compiled_concat_ok hcompile]
      by_cases hrows : rows ∈ compiled steps
      · rwa [hmemo.compile_of_mem hrows, Finset.insert_eq_of_mem hrows]
      · rw [hmemo.compile_of_notMem hrows, hcompile]
        exact hmemo.cons hrows hcompile

/-! ### Runs -/

/-- A step with the size of the memo after it as a part of the answer. -/
def sizedStep (memo : Memo) (next : Step) : (Option (Except TemplateError Plan) × Nat) × Memo :=
  (((memo.step next).1, (memo.step next).2.size), (memo.step next).2)

theorem answers_eq_run (memo : Memo) (steps : List Step) :
    memo.answers steps = Run.answers sizedStep memo steps := by
  induction steps generalizing memo with
  | nil => rfl
  | cons next steps ih => exact congrArg (List.cons _) (ih (memo.step next).2)

theorem remembers_after (steps : List Step) : (Run.after step {} steps).Remembers (compiled steps) := by
  induction steps using List.reverseRecOn with
  | nil => exact remembers_empty
  | append_singleton steps next ih =>
    rw [Run.after_concat]
    exact (ih.step next).2

/--
Every step of a run answers as if there was no memo, and afterwards the memo is as large as the number of
different templates compiled without an error since the last time it was cleared. A template that does not
compile changes nothing, and one that is remembered, if only the empty one, is answered from the memo.
-/
theorem answers_eq_fresh (before rest : List Step) (next : Step) :
    let memo := Run.after step {} before
    (answers {} (before ++ next :: rest))[before.length]? =
        some (next.fresh, (compiled (before ++ [next])).card) ∧
      (∀ rows e, RegionGrid.compile rows = .error e → memo.compile rows = (.error e, memo)) ∧
      (∀ rows ∈ compiled before, memo.compile rows = (RegionGrid.compile rows, memo) ∧
        memo.plans.lookup rows = (RegionGrid.compile rows).toOption) ∧
      (.compile [] ∈ before.rtakeWhile (· ≠ .clear) →
        [] ∈ compiled before ∧ memo.plans.lookup [] = some .empty) := by
  intro memo
  have hmemo : memo.Remembers (compiled before) := remembers_after before
  have hempty : RegionGrid.compile [] = .ok .empty := rfl
  refine ⟨?_, fun rows e => hmemo.compile_of_error, fun rows hrows => ⟨hmemo.compile_of_mem hrows, ?_⟩,
    fun hstep => ?_⟩
  · obtain ⟨hanswer, hafter⟩ := hmemo.step next
    rw [answers_eq_run, Run.getElem?_answers, ← hafter.size_eq, ← hanswer]
    rfl
  · obtain ⟨plan, hplan, hlookup⟩ := hmemo.exists_lookup_of_mem hrows
    rw [hlookup, hplan]
    rfl
  · have hrows : [] ∈ compiled before := mem_compiled.mpr ⟨hstep, .empty, hempty⟩
    exact ⟨hrows, hmemo.lookup_eq_some_iff.mpr ⟨hrows, hempty⟩⟩

end RegionGrid.Memo
