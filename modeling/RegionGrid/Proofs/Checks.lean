import Mathlib.Data.List.Forall2

/-!
# Sequences of checks

When a computation that may fail in several places succeeds: each step of a sequence and each item of
a list has to succeed in turn. When it fails, the error is that of the first step or item that fails.
-/

namespace RegionGrid

variable {ε α β : Type}

theorem bind_eq_ok_iff {x : Except ε α} {next : α → Except ε β} {b : β} :
    (x >>= next) = .ok b ↔ ∃ a, x = .ok a ∧ next a = .ok b := by
  cases x with
  | error e => simp [bind, Except.bind]
  | ok a => simp [bind, Except.bind]

theorem bind_eq_error_iff {x : Except ε α} {next : α → Except ε β} {e : ε} :
    (x >>= next) = .error e ↔ x = .error e ∨ ∃ a, x = .ok a ∧ next a = .error e := by
  cases x with
  | error d => simp [bind, Except.bind]
  | ok a => simp [bind, Except.bind]

theorem mapError_eq_ok_iff {δ : Type} {x : Except ε α} {f : ε → δ} {a : α} :
    x.mapError f = .ok a ↔ x = .ok a := by
  cases x with
  | error e => simp [Except.mapError]
  | ok b => simp [Except.mapError]

theorem mapM_eq_ok_iff {check : α → Except ε β} {xs : List α} {ys : List β} :
    xs.mapM check = .ok ys ↔ List.Forall₂ (fun x y => check x = .ok y) xs ys := by
  induction xs generalizing ys with
  | nil =>
    rw [List.mapM_nil, List.forall₂_nil_left_iff]
    exact ⟨fun hok => (Except.ok.inj hok).symm, fun hnil => congrArg Except.ok hnil.symm⟩
  | cons x xs ih =>
    rw [List.mapM_cons, List.forall₂_cons_left_iff, bind_eq_ok_iff]
    constructor
    · intro h
      obtain ⟨y, hy, hrest⟩ := h
      obtain ⟨rest, hxs, hok⟩ := bind_eq_ok_iff.mp hrest
      cases hok
      exact ⟨y, rest, hy, ih.mp hxs, rfl⟩
    · intro h
      obtain ⟨y, rest, hy, hxs, rfl⟩ := h
      exact ⟨y, hy, bind_eq_ok_iff.mpr ⟨rest, ih.mpr hxs, rfl⟩⟩

theorem exists_mapM_eq_ok_iff {check : α → Except ε β} {xs : List α} :
    (∃ ys, xs.mapM check = .ok ys) ↔ ∀ x ∈ xs, ∃ y, check x = .ok y := by
  simp only [mapM_eq_ok_iff]
  induction xs with
  | nil => simp
  | cons x xs ih =>
    simp only [List.forall_mem_cons, ← ih, List.forall₂_cons_left_iff]
    constructor
    · intro h
      obtain ⟨_, y, rest, hy, hrest, rfl⟩ := h
      exact ⟨⟨y, hy⟩, rest, hrest⟩
    · intro h
      obtain ⟨⟨y, hy⟩, rest, hrest⟩ := h
      exact ⟨y :: rest, y, rest, hy, hrest, rfl⟩

/-- A list of checks fails with the error of the first item that does not pass. -/
theorem mapM_eq_error_iff {check : α → Except ε β} {xs : List α} {e : ε} :
    xs.mapM check = .error e ↔ ∃ passed failed rest, xs = passed ++ failed :: rest ∧
      (∀ x ∈ passed, ∃ y, check x = .ok y) ∧ check failed = .error e := by
  induction xs with
  | nil =>
    rw [List.mapM_nil]
    constructor
    · intro herror
      cases herror
    · intro h
      obtain ⟨passed, failed, rest, hnil, -⟩ := h
      simp at hnil
  | cons x xs ih =>
    rw [List.mapM_cons, bind_eq_error_iff]
    constructor
    · intro h
      rcases h with hx | ⟨y, hy, hrest⟩
      · exact ⟨[], x, xs, rfl, by simp, hx⟩
      · rcases bind_eq_error_iff.mp hrest with hxs | ⟨ys, -, hok⟩
        · obtain ⟨passed, failed, rest, rfl, hpassed, hfailed⟩ := ih.mp hxs
          exact ⟨x :: passed, failed, rest, rfl,
            List.forall_mem_cons.mpr ⟨⟨y, hy⟩, hpassed⟩, hfailed⟩
        · cases hok
    · intro h
      obtain ⟨passed, failed, rest, hsplit, hpassed, hfailed⟩ := h
      cases passed with
      | nil =>
        obtain ⟨rfl, rfl⟩ := List.cons.inj hsplit
        exact .inl hfailed
      | cons first passed =>
        obtain ⟨rfl, rfl⟩ := List.cons.inj hsplit
        obtain ⟨⟨y, hy⟩, hpassed⟩ := List.forall_mem_cons.mp hpassed
        have hxs := ih.mpr ⟨passed, failed, rest, rfl, hpassed, hfailed⟩
        exact .inr ⟨y, hy, bind_eq_error_iff.mpr (.inl hxs)⟩

/-- The computation fails, and its error is of a kind. -/
def FailsWith (P : ε → Prop) (x : Except ε α) : Prop := ∃ e, x = .error e ∧ P e

section FailsWith

variable {P : ε → Prop}

@[simp] theorem not_failsWith_ok {a : α} : ¬ FailsWith P (.ok a : Except ε α) := by
  rintro ⟨_, hok, -⟩
  cases hok

@[simp] theorem failsWith_error_iff {e : ε} : FailsWith P (.error e : Except ε α) ↔ P e := by
  constructor
  · rintro ⟨_, herror, he⟩
    cases herror
    exact he
  · exact fun he => ⟨e, rfl, he⟩

@[simp] theorem not_failsWith_pure {a : α} : ¬ FailsWith P (pure a : Except ε α) := not_failsWith_ok

@[simp] theorem failsWith_throw_iff {e : ε} : FailsWith P (throw e : Except ε α) ↔ P e := failsWith_error_iff

theorem failsWith_bind_iff {x : Except ε α} {next : α → Except ε β} :
    FailsWith P (x >>= next) ↔ FailsWith P x ∨ ∃ a, x = .ok a ∧ FailsWith P (next a) := by
  cases x with
  | error e => simp [bind, Except.bind]
  | ok a => simp [bind, Except.bind]

theorem failsWith_mapError_iff {δ : Type} {x : Except δ α} {f : δ → ε} :
    FailsWith P (x.mapError f) ↔ FailsWith (fun e => P (f e)) x := by
  cases x with
  | error e => simp [Except.mapError]
  | ok a => simp [Except.mapError]

theorem failsWith_mapM_iff {check : α → Except ε β} {xs : List α} :
    FailsWith P (xs.mapM check) ↔ ∃ passed failed rest, xs = passed ++ failed :: rest ∧
      (∀ x ∈ passed, ∃ y, check x = .ok y) ∧ FailsWith P (check failed) := by
  constructor
  · rintro ⟨e, herror, he⟩
    obtain ⟨passed, failed, rest, hsplit, hpassed, hfailed⟩ := mapM_eq_error_iff.mp herror
    exact ⟨passed, failed, rest, hsplit, hpassed, e, hfailed, he⟩
  · rintro ⟨passed, failed, rest, hsplit, hpassed, e, hfailed, he⟩
    exact ⟨e, mapM_eq_error_iff.mpr ⟨passed, failed, rest, hsplit, hpassed, hfailed⟩, he⟩

end FailsWith

end RegionGrid
