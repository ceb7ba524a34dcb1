import Mathlib.Data.List.Induction

/-!
# Runs

What is done one step after the other, each step with an answer and the state for the next one. A run is
taken apart at any of its steps: the steps in front of it decide the state in which it is done, and what
comes later does not matter to its answer.
-/

namespace RegionGrid.Run

variable {σ ι ω : Type} (step : σ → ι → ω × σ) (s : σ)

/-- The state after some steps. -/
def after (steps : List ι) : σ := steps.foldl (fun s next => (step s next).2) s

def answers (s : σ) : List ι → List ω
  | [] => []
  | next :: rest => (step s next).1 :: answers (step s next).2 rest

theorem after_concat (steps : List ι) (next : ι) :
    after step s (steps ++ [next]) = (step (after step s steps) next).2 :=
  List.foldl_append

/-- What no step changes is the same after every run. -/
theorem after_eq {β : Type} (kept : σ → β) (hkept : ∀ s next, kept (step s next).2 = kept s) (steps : List ι) :
    kept (after step s steps) = kept s := by
  induction steps using List.reverseRecOn with
  | nil => rfl
  | append_singleton steps next ih => rw [after_concat, hkept, ih]

theorem answers_append (steps more : List ι) :
    answers step s (steps ++ more) = answers step s steps ++ answers step (after step s steps) more := by
  induction steps generalizing s with
  | nil => rfl
  | cons next steps ih => exact congrArg (List.cons _) (ih (step s next).2)

theorem length_answers (steps : List ι) : (answers step s steps).length = steps.length := by
  induction steps generalizing s with
  | nil => rfl
  | cons next steps ih => exact congrArg (· + 1) (ih (step s next).2)

theorem getElem?_answers (before rest : List ι) (next : ι) :
    (answers step s (before ++ next :: rest))[before.length]? =
      some (step (after step s before) next).1 := by
  rw [answers_append, List.getElem?_append_right (Nat.le_of_eq (length_answers step s before)),
    length_answers, Nat.sub_self]
  rfl

/-- The steps of a run with their answers. -/
def history (steps : List ι) : List (ι × ω) := steps.zip (answers step s steps)

theorem history_concat (steps : List ι) (next : ι) :
    history step s (steps ++ [next]) =
      history step s steps ++ [(next, (step (after step s steps) next).1)] := by
  rw [history, answers_append, List.zip_append (length_answers step s steps).symm]
  rfl

end RegionGrid.Run
