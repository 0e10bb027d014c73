import ContactGraph.Proofs.Reading.Run

/-!
# What operations leave behind

`Service.noting` is a service that keeps a note of each query with its answer. `Run.Traces x y T`
says of an operation `x` on such a service that it does what `y` does without notes, and that the
notes it leaves and what it comes to have `T`. The rules follow the operations : only a query leaves
a note, and the notes of a sequence are those of its parts, behind each other (`Traces.bind`).
-/

namespace ContactGraph

/-- The service with a note kept of each query and its answer. -/
def Service.noting {σ ε : Type} (note : String → Except String Table → ε) (s : Service σ) :
    Service (σ × List ε) where
  select text st :=
    let (answer, st') := s.select text st.1
    (answer, st', st.2 ++ [note text answer])
  resolve iris st :=
    let (answer, st') := s.resolve iris st.1
    (answer, st', st.2)
  canceled st := s.canceled st.1

/-- Naming failures otherwise makes no success. -/
theorem mapError_eq_ok_iff {ε ε' α : Type} {f : ε → ε'} {o : Except ε α} {a : α} :
    o.mapError f = .ok a ↔ o = .ok a := by
  cases o with
  | ok b =>
    constructor
    all_goals rintro ⟨⟩
    all_goals rfl
  | error e =>
    constructor
    all_goals rintro ⟨⟩

namespace Run

variable {σ ε α β : Type} {x : Run (σ × List ε) α} {y : Run σ α}
  {T : List ε → Except Error α → Prop}

/-- The notes that an operation leaves from a state. -/
def notes (x : Run (σ × List ε) α) (st : σ) : List ε :=
  (x.run (st, [])).2.2

/-- With notes kept, the operation `x` does what `y` does, and its notes and what it comes to have
`T`. -/
structure Traces (x : Run (σ × List ε) α) (y : Run σ α) (T : List ε → Except Error α → Prop) :
    Prop where
  /-- Notes are kept, and nothing else is different. -/
  run_eq : ∀ st log, x.run (st, log) = ((y.run st).1, (y.run st).2, log ++ x.notes st)
  /-- What the notes have. -/
  traces : ∀ st, T (x.notes st) (y.run st).1

theorem traces_of_run
    (h : ∀ st, ∃ notes, (∀ log, x.run (st, log) = ((y.run st).1, (y.run st).2, log ++ notes)) ∧
      T notes (y.run st).1) : Traces x y T := by
  have hnotes (st : σ) :
      (∀ log, x.run (st, log) = ((y.run st).1, (y.run st).2, log ++ x.notes st)) ∧
        T (x.notes st) (y.run st).1 := by
    obtain ⟨found, hrun, hfound⟩ := h st
    have heq : x.notes st = found := by rw [notes, hrun, List.nil_append]
    rw [heq]
    exact ⟨hrun, hfound⟩
  exact ⟨fun st => (hnotes st).1, fun st => (hnotes st).2⟩

/-- An operation that sends no query leaves no note. -/
theorem traces_of_silent (h : ∀ st log, x.run (st, log) = ((y.run st).1, (y.run st).2, log))
    (hT : ∀ st, T [] (y.run st).1) : Traces x y T :=
  traces_of_run fun st => ⟨[], fun log => by rw [h, List.append_nil], hT st⟩

theorem Traces.mono {U : List ε → Except Error α → Prop} (hx : Traces x y T)
    (h : ∀ log o, T log o → U log o) : Traces x y U :=
  ⟨hx.run_eq, fun st => h _ _ (hx.traces st)⟩

theorem traces_pure {a : α} (h : T [] (.ok a)) : Traces (pure a) (pure a : Run σ α) T :=
  traces_of_silent (fun _ _ => rfl) fun _ => h

theorem traces_ofExcept {o : Except Error α} (h : T [] o) :
    Traces (ofExcept o) (ofExcept o : Run σ α) T :=
  traces_of_silent (fun _ _ => rfl) fun _ => h

theorem traces_ofExcept_map {o : Except Error α} {f : α → β} {U : List ε → Except Error β → Prop}
    (h : U [] (o.map f)) :
    Traces (ofExcept o >>= fun a => pure (f a))
      (ofExcept o >>= fun a => pure (f a) : Run σ β) U := by
  refine traces_of_silent (fun st log => ?_) fun st => ?_
  · rw [run_bind_pure, run_bind_pure]
    rfl
  · rw [run_bind_pure]
    exact h

theorem traces_ofRejection {o : Except Rejection α} (h : T [] (o.mapError Rejection.error)) :
    Traces (ofRejection o) (ofRejection o : Run σ α) T :=
  traces_ofExcept h

variable {note : String → Except String Table → ε}

theorem traces_isCanceled (s : Service σ) :
    Traces (s.noting note).isCanceled s.isCanceled fun log _ => log = [] :=
  traces_of_silent (fun _ _ => rfl) fun _ => rfl

theorem traces_query (s : Service σ) (text : String) :
    Traces ((s.noting note).query text) (s.query text) fun log o =>
      ∃ answer, log = [note text answer] ∧ o = answer.mapError Error.execution :=
  traces_of_run fun st => ⟨_, fun _ => rfl, (s.select text st).1, rfl, rfl⟩

/-- A sequence leaves the notes of its parts, and when the first part fails those of that alone. -/
theorem Traces.bind {f : α → Run (σ × List ε) β} {g : α → Run σ β}
    {U : α → List ε → Except Error β → Prop} {V : List ε → Except Error β → Prop}
    (hx : Traces x y T) (hf : ∀ a, Traces (f a) (g a) (U a))
    (herror : ∀ e log, T log (.error e) → V log (.error e))
    (hok : ∀ a o front back, T front (.ok a) → U a back o → V (front ++ back) o) :
    Traces (x >>= f) (y >>= g) V := by
  refine traces_of_run fun st => ?_
  have htraces := hx.traces st
  cases ho : (y.run st).1 with
  | ok a =>
    rw [ho] at htraces
    have hsucceeds (log : List ε) :
        x.run (st, log) = (.ok a, (y.run st).2, log ++ x.notes st) := by
      rw [hx.run_eq, ho]
    refine ⟨x.notes st ++ (f a).notes (y.run st).2, fun log => ?_, ?_⟩
    all_goals rw [run_bind_of_run (Prod.ext ho rfl)]
    · rw [run_bind_of_run (hsucceeds log), (hf a).run_eq, List.append_assoc]
    · exact hok a _ _ _ htraces ((hf a).traces _)
  | error e =>
    rw [ho] at htraces
    have hfails (log : List ε) : (x.run (st, log)).1 = .error e := by
      rw [hx.run_eq, ho]
    refine ⟨x.notes st, fun log => ?_, ?_⟩
    all_goals rw [run_bind_of_error ho]
    · rw [run_bind_of_error (hfails log), hx.run_eq]
    · exact herror e _ htraces

/-- What follows an operation without queries leaves the notes of the sequence. -/
theorem Traces.silent_bind {f : α → Run (σ × List ε) β} {g : α → Run σ β}
    {V : List ε → Except Error β → Prop} (hx : Traces x y fun log _ => log = [])
    (hf : ∀ a, Traces (f a) (g a) V) (herror : ∀ e, V [] (.error e)) :
    Traces (x >>= f) (y >>= g) V := by
  refine hx.bind hf ?_ ?_
  · rintro e _ rfl
    exact herror e
  · rintro a o _ back rfl hback
    exact hback

/-- What every note of the parts has, every note of a sequence has. -/
theorem Traces.bind_forall {f : α → Run (σ × List ε) β} {g : α → Run σ β} {P : ε → Prop}
    (hx : Traces x y fun log _ => ∀ e ∈ log, P e)
    (hf : ∀ a, Traces (f a) (g a) fun log _ => ∀ e ∈ log, P e) :
    Traces (x >>= f) (y >>= g) fun log _ => ∀ e ∈ log, P e :=
  hx.bind hf (fun _ _ h => h) fun _ _ _ _ hfront hback => List.forall_mem_append.mpr ⟨hfront, hback⟩

theorem traces_checkCanceled (s : Service σ) :
    Traces (s.noting note).checkCanceled s.checkCanceled fun log _ => log = [] := by
  refine (traces_isCanceled s).silent_bind (fun canceled => ?_) fun _ => rfl
  cases canceled with
  | false => exact traces_pure rfl
  | true => exact traces_ofExcept (o := .error .canceled) rfl

end Run

end ContactGraph
