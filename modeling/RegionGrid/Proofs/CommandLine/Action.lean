import RegionGrid.CommandLine.Run
import RegionGrid.Proofs.Checks

/-!
# Parts of the program, run

A part of the program goes from one output to the next, and may fail on the way. A sequence of parts fails
where its first part fails or where, after that, the rest does. What a part prints is told apart from all else
that it does, and so is what it gives.
-/

namespace RegionGrid

namespace Action

variable {β γ : Type} {x : Action β} {next : β → Action γ} {o : Output} {P : Failure → Prop}

/-- What a part of the program gives after an output, and the output then. -/
def result (x : Action β) (o : Output) : Except Failure β × Output := x.run o

theorem result_bind (x : Action β) (next : β → Action γ) (o : Output) :
    (x >>= next).result o = match x.result o with
      | (.ok b, o') => (next b).result o'
      | (.error e, o') => (.error e, o') := by
  unfold result ExceptT.run
  simp only [bind, ExceptT.bind, ExceptT.mk, StateT.bind, ExceptT.bindCont]
  cases x o with
  | mk given o' => cases given <;> rfl

theorem result_bind_eq_ok_iff {c : γ} {o'' : Output} :
    (x >>= next).result o = (.ok c, o'') ↔
      ∃ b o', x.result o = (.ok b, o') ∧ (next b).result o' = (.ok c, o'') := by
  rw [result_bind]
  generalize x.result o = given
  obtain ⟨e | b, o'⟩ := given
  · simp
  · simp [and_assoc]

@[simp] theorem result_pure {b : β} : (pure b : Action β).result o = (.ok b, o) := rfl

@[simp] theorem result_throw {e : Failure} : (throw e : Action β).result o = (.error e, o) := rfl

@[simp] theorem result_modify {f : Output → Output} : (modify f : Action Unit).result o = (.ok (), f o) := rfl

@[simp] theorem result_get : (get : Action Output).result o = (.ok o, o) := rfl

theorem result_map {f : β → γ} : (f <$> x).result o = ((x.result o).1.map f, (x.result o).2) := by
  rw [map_eq_pure_bind, result_bind]
  generalize x.result o = given
  obtain ⟨e | b, o'⟩ := given
  · rfl
  · rfl

/-- The part fails, and its error is of a kind. -/
def Fails (P : Failure → Prop) (x : Action β) (o : Output) : Prop := ∃ e, (x.result o).1 = .error e ∧ P e

@[simp] theorem not_fails_pure {b : β} : ¬ Fails P (pure b : Action β) o := by
  simp [Fails]

@[simp] theorem fails_throw_iff {e : Failure} : Fails P (throw e : Action β) o ↔ P e := by
  simp [Fails]

@[simp] theorem not_fails_modify {f : Output → Output} : ¬ Fails P (modify f : Action Unit) o := by
  simp [Fails]

theorem fails_bind_iff :
    Fails P (x >>= next) o ↔ Fails P x o ∨ ∃ b o', x.result o = (.ok b, o') ∧ Fails P (next b) o' := by
  unfold Fails
  rw [result_bind]
  generalize x.result o = given
  obtain ⟨e | b, o'⟩ := given
  · simp
  · simp [and_assoc]

theorem fails_throw_bind {e : Failure} : Fails P (throw e >>= next) o ↔ P e := by
  rw [fails_bind_iff, fails_throw_iff]
  refine or_iff_left ?_
  rintro ⟨_, _, hok, -⟩
  cases hok

theorem fails_modify_bind {f : Output → Output} {next : Unit → Action γ} :
    Fails P (modify f >>= next) o ↔ Fails P (next ()) (f o) := by
  rw [fails_bind_iff, or_iff_right not_fails_modify]
  constructor
  · rintro ⟨_, _, hok, hfails⟩
    cases hok
    exact hfails
  · exact fun hfails => ⟨(), _, rfl, hfails⟩

/-- The part prints nothing. -/
def Silent (x : Action β) : Prop := ∀ o, (x.result o).2.printed = o.printed

theorem silent_pure {b : β} : Silent (pure b : Action β) := fun _ => rfl

theorem silent_throw {e : Failure} : Silent (throw e : Action β) := fun _ => rfl

theorem Silent.bind (hx : Silent x) (hnext : ∀ b, Silent (next b)) : Silent (x >>= next) := by
  intro o
  have hprinted := hx o
  rw [result_bind]
  generalize x.result o = given at *
  obtain ⟨e | b, o'⟩ := given
  · exact hprinted
  · exact (hnext b o').trans hprinted

/-- The part gives this, whatever was done before. -/
def Gives (x : Action β) (given : Except Failure β) : Prop := ∀ o, (x.result o).1 = given

theorem gives_pure {b : β} : Gives (pure b : Action β) (.ok b) := fun _ => rfl

theorem gives_throw {e : Failure} : Gives (throw e : Action β) (.error e) := fun _ => rfl

theorem Gives.bind {given : Except Failure β} {rest : β → Except Failure γ} (hx : Gives x given)
    (hnext : ∀ b, Gives (next b) (rest b)) : Gives (x >>= next) (given >>= rest) := by
  intro o
  have hgiven := hx o
  rw [result_bind]
  generalize x.result o = result at *
  obtain ⟨e | b, o'⟩ := result
  · rw [← hgiven]
    rfl
  · rw [← hgiven]
    exact hnext b o'

section Gives

variable {given : Except Failure β}

theorem Gives.fails_iff (hx : Gives x given) : Fails P x o ↔ FailsWith P given := by
  rw [Fails, hx o, FailsWith]

theorem Gives.exists_result_eq_ok_iff {b : β} (hx : Gives x given) :
    (∃ o', x.result o = (.ok b, o')) ↔ given = .ok b := by
  rw [← hx o]
  constructor
  · rintro ⟨o', hresult⟩
    rw [hresult]
  · exact fun hgiven => ⟨_, Prod.ext hgiven rfl⟩

/-- What comes after a part fails or not by what the part gives. -/
theorem Gives.fails_bind_iff {Q : β → Prop} (hx : Gives x given) (hnext : ∀ b o', Fails P (next b) o' ↔ Q b) :
    Fails P (x >>= next) o ↔ FailsWith P given ∨ ∃ b, given = .ok b ∧ Q b := by
  simp only [Action.fails_bind_iff, hx.fails_iff, hnext, ← hx.exists_result_eq_ok_iff (o := o), exists_and_right]

end Gives

end Action

namespace CommandLine

open RegionGrid.Action

variable {ε β : Type} {o : Output} {P : Failure → Prop}

@[simp] theorem result_record {records : List Record} : (record records : Action Unit).result o =
    (.ok (), { o with log := o.log ++ records.filter (·.level.reaches o.least) }) := rfl

@[simp] theorem result_orStop {failure : ε → Failure} {e : Except ε β} :
    (orStop failure e).result o = (e.mapError failure, o) := by
  cases e <;> rfl

@[simp] theorem not_fails_record {records : List Record} : ¬ Fails P (record records) o := not_fails_modify

theorem fails_record_bind {records : List Record} {next : Unit → Action β} :
    Fails P (record records >>= next) o ↔
      Fails P (next ()) { o with log := o.log ++ records.filter (·.level.reaches o.least) } :=
  fails_modify_bind

theorem fails_orStop_bind {γ : Type} {failure : ε → Failure} {e : Except ε β}
    {next : β → Action γ} :
    Fails P (orStop failure e >>= next) o ↔
      FailsWith (fun d => P (failure d)) e ∨ ∃ b, e = .ok b ∧ Fails P (next b) o := by
  cases e with
  | error d =>
    simp only [orStop, fails_throw_bind, failsWith_error_iff, reduceCtorEq, false_and, exists_false, or_false]
  | ok b => simp [orStop]

theorem silent_orStop {failure : ε → Failure} {e : Except ε β} : Silent (orStop failure e) := fun _ => by
  rw [result_orStop]

theorem silent_record {records : List Record} : Silent (record records) := fun _ => rfl

theorem gives_record {records : List Record} : Gives (record records) (.ok ()) := fun _ => rfl

/-! ### Showing values -/

section Showing

variable {room : Nat} {v : Value} {records : List Record}

theorem silent_recordShowing : Silent (recordShowing room v records) := by
  unfold recordShowing
  match v.obstacle? room with
  | none => exact silent_record
  | some .tooManyDigits => exact silent_pure
  | some .tooDeep => exact silent_throw

theorem gives_recordShowing : Gives (recordShowing room v records)
    (if v.obstacle? room = some .tooDeep then .error .tooDeep else .ok ()) := by
  unfold recordShowing
  match v.obstacle? room with
  | none => exact gives_record
  | some .tooManyDigits => exact gives_pure
  | some .tooDeep => exact gives_throw

theorem checkName_of_shown (hshown : v.obstacle? room = none) : checkName room v = pure () := by
  rw [checkName, hshown]

theorem fails_checkName_iff : Fails P (checkName room v) o ↔
    v.obstacle? room = some .tooManyDigits ∧ P .unwritableName ∨ v.obstacle? room = some .tooDeep ∧ P .tooDeep := by
  unfold checkName
  match v.obstacle? room with
  | none => simp
  | some .tooManyDigits => simp
  | some .tooDeep => simp

theorem checkName_eq_ok_iff {u : Unit} {o' : Output} :
    (checkName room v).result o = (.ok u, o') ↔ v.obstacle? room = none ∧ o = o' := by
  unfold checkName
  match v.obstacle? room with
  | none => simp
  | some .tooManyDigits => simp
  | some .tooDeep => simp

end Showing

/-! ### Printing -/

section Printing

variable {prints : String → Bool} {lines : List String} {line : String}

theorem print_cons_of_prints (hline : prints line = true) : print prints (line :: lines) =
    modify (fun o => { o with printed := o.printed ++ [line] }) >>= fun _ => print prints lines := by
  rw [print, if_pos hline]

theorem print_cons_of_refuses (hline : prints line = false) :
    (print prints (line :: lines)).result o = (.error (.unprintable line), o) := by
  rw [print, hline]
  rfl

theorem result_print (hlines : ∀ line ∈ lines, prints line = true) :
    (print prints lines).result o = (.ok (), { o with printed := o.printed ++ lines }) := by
  induction lines generalizing o with
  | nil => simp [print]
  | cons line lines ih =>
    obtain ⟨hline, hlines⟩ := List.forall_mem_cons.mp hlines
    simp [print_cons_of_prints hline, result_bind, ih hlines]

/-- Printing fails at the first line that cannot be printed. -/
theorem fails_print_iff (hP : ∀ line, P (.unprintable line)) :
    Fails P (print prints lines) o ↔ ∃ line ∈ lines, prints line = false := by
  induction lines generalizing o with
  | nil => simp [print]
  | cons line lines ih =>
    cases hline : prints line with
    | true => simp [print_cons_of_prints hline, fails_modify_bind, ih, hline]
    | false => simp [Fails, print_cons_of_refuses hline, hP, hline]

theorem result_print_eq_ok_iff {u : Unit} {o' : Output} : (print prints lines).result o = (.ok u, o') ↔
    (∀ line ∈ lines, prints line = true) ∧ { o with printed := o.printed ++ lines } = o' := by
  by_cases hlines : ∀ line ∈ lines, prints line = true
  · rw [result_print hlines, and_iff_right hlines, Prod.mk.injEq, and_iff_right rfl]
  · have hfails : Fails (fun _ => True) (print prints lines) o :=
      (fails_print_iff fun _ => trivial).mpr (by simpa using hlines)
    refine iff_of_false (fun hok => ?_) fun h => hlines h.1
    obtain ⟨e, herror, -⟩ := hfails
    simp [hok] at herror

end Printing

end CommandLine

end RegionGrid
