import RegionGrid.Template

/-!
# Compiling with a memo

Remembers the plans of the templates compiled so far, by their rows. A plan depends on the rows alone,
so a remembered plan can stand for a new one; errors are not remembered.
-/

namespace RegionGrid

/-- The templates compiled so far with their plans, the latest first. -/
structure Memo where
  plans : List (List String × Plan) := []

namespace Memo

def size (memo : Memo) : Nat := memo.plans.length

/-- The plan of a template, and the memo afterwards. -/
def compile (memo : Memo) (rows : List String) : Except TemplateError Plan × Memo :=
  match memo.plans.lookup rows with
  | some plan => (.ok plan, memo)
  | none =>
    match RegionGrid.compile rows with
    | .ok plan => (.ok plan, ⟨(rows, plan) :: memo.plans⟩)
    | .error e => (.error e, memo)

/-- Something that a memo is asked to do. -/
inductive Step where
  | compile (rows : List String)
  /-- Forget every plan. -/
  | clear
  deriving DecidableEq, Repr

/-- What a step answers, if it answers, and the memo afterwards. -/
def step (memo : Memo) : Step → Option (Except TemplateError Plan) × Memo
  | .compile rows => let (answer, memo) := memo.compile rows; (some answer, memo)
  | .clear => (none, {})

/-- The answers of steps done one after the other, each with the size of the memo after it. -/
def answers (memo : Memo) : List Step → List (Option (Except TemplateError Plan) × Nat)
  | [] => []
  | s :: rest =>
    let (answer, memo) := memo.step s
    (answer, memo.size) :: memo.answers rest

end Memo

end RegionGrid
