import ContactGraph.Reading.Service

/-!
# What operations give

`Run.Gives x Q` : from every state of the service the operation `x` succeeds with a result that has
`Q`. The rules below follow the operations : a sequence gives what its last part gives
(`Gives.bind`), and a service that answers, and whose requests are not canceled, lets it go on.

A service is steady when its answers depend on nothing but the queries (`Service.IsSteady`). Then an
operation comes to the same from every state, be it a result or a failure (`Run.Yields`).

Of any service, `Run.Ends x Q E` says what an operation can come to : a result that has `Q`, or a
failure that has `E`.
-/

namespace ContactGraph

/-- A service whose answers depend on nothing but the queries. -/
structure Service.IsSteady {σ : Type} (s : Service σ) (answer : String → Except String Table) :
    Prop where
  /-- A query has one answer. -/
  select : ∀ text st, (s.select text st).1 = answer text
  /-- The request is canceled from the beginning or not at all. -/
  canceled : ∀ st st', s.canceled st = s.canceled st'

namespace Run

variable {σ α β : Type} {s : Service σ} {x : Run σ α} {Q : α → Prop} {R : β → Prop}

/-- From every state the operation succeeds with a result that has `Q`. -/
def Gives (x : Run σ α) (Q : α → Prop) : Prop :=
  ∀ st, ∃ a st', x.run st = (.ok a, st') ∧ Q a

theorem gives_pure {a : α} (h : Q a) : Gives (pure a : Run σ α) Q := fun st =>
  ⟨a, st, rfl, h⟩

theorem Gives.mono {Q' : α → Prop} (hx : Gives x Q) (h : ∀ a, Q a → Q' a) : Gives x Q' := fun st =>
  have ⟨a, st', hrun, ha⟩ := hx st
  ⟨a, st', hrun, h a ha⟩

theorem run_bind_of_run {f : α → Run σ β} {st st' : σ} {a : α} (h : x.run st = (.ok a, st')) :
    (x >>= f).run st = (f a).run st' := by
  rw [ExceptT.run_bind]
  show ExceptT.bindCont f (x.run st).1 (x.run st).2 = _
  rw [h]
  rfl

/-- A sequence whose first part fails goes no further. -/
theorem run_bind_of_error {f : α → Run σ β} {st : σ} {e : Error} (h : (x.run st).1 = .error e) :
    (x >>= f).run st = (.error e, (x.run st).2) := by
  rw [ExceptT.run_bind]
  show ExceptT.bindCont f (x.run st).1 (x.run st).2 = _
  rw [h]
  rfl

/-- Nothing keeps an operation on the outcome of another from going on. -/
theorem run_outcome_bind {f : Except Error α → Run σ β} (st : σ) :
    (x.outcome >>= f).run st = (f (x.run st).1).run (x.run st).2 :=
  run_bind_of_run rfl

theorem run_bind_pure (x : Run σ α) (f : α → β) (st : σ) :
    (x >>= fun a => pure (f a)).run st = ((x.run st).1.map f, (x.run st).2) := by
  cases h : (x.run st).1 with
  | ok a =>
    rw [run_bind_of_run (Prod.ext h rfl)]
    rfl
  | error e =>
    rw [run_bind_of_error h]
    rfl

/-- A sequence gives what its second part gives for what the first one does. -/
theorem Gives.bind {f : α → Run σ β} (hx : Gives x Q) (hf : ∀ a, Q a → Gives (f a) R) :
    Gives (x >>= f) R := by
  intro st
  obtain ⟨a, st₁, hrun, ha⟩ := hx st
  obtain ⟨b, st₂, hrun', hb⟩ := hf a ha st₁
  exact ⟨b, st₂, (run_bind_of_run hrun).trans hrun', hb⟩

theorem gives_ofExcept {a : α} (h : Q a) : Gives (ofExcept (.ok a) : Run σ α) Q := fun st =>
  ⟨a, st, rfl, h⟩

theorem gives_ofRejection {r : Except Rejection α} {a : α} (hr : r = .ok a) (h : Q a) :
    Gives (ofRejection r : Run σ α) Q := fun st =>
  ⟨a, st, by rw [hr]; rfl, h⟩

/-- The outcome of an operation that succeeds is its result. -/
theorem Gives.outcome (hx : Gives x Q) : Gives x.outcome fun r => ∃ a, r = .ok a ∧ Q a := by
  intro st
  obtain ⟨a, st', hrun, ha⟩ := hx st
  refine ⟨.ok a, st', ?_, a, rfl, ha⟩
  show (Except.ok (x.run st).1, (x.run st).2) = _
  rw [hrun]

theorem gives_query {text : String} {Q : Table → Prop}
    (h : ∀ st, ∃ table, (s.select text st).1 = .ok table ∧ Q table) : Gives (s.query text) Q := by
  intro st
  obtain ⟨table, hanswer, htable⟩ := h st
  refine ⟨table, (s.select text st).2, ?_, htable⟩
  show ((s.select text st).1.mapError Error.execution, (s.select text st).2) = _
  rw [hanswer]
  rfl

theorem gives_isCanceled (h : ∀ st, s.canceled st = false) :
    Gives s.isCanceled fun canceled => canceled = false := fun st =>
  ⟨s.canceled st, st, rfl, h st⟩

theorem gives_checkCanceled (h : ∀ st, s.canceled st = false) :
    Gives s.checkCanceled fun _ => True := by
  refine (gives_isCanceled h).bind fun canceled hcanceled => ?_
  rw [hcanceled]
  exact gives_pure trivial

/-! ## Steady services -/

/-- From every state the operation comes to `o`. -/
def Yields (x : Run σ α) (o : Except Error α) : Prop :=
  ∀ st, (x.run st).1 = o

theorem Yields.gives {a : α} (hx : Yields x (.ok a)) (h : Q a) : Gives x Q := fun st =>
  ⟨a, (x.run st).2, Prod.ext (hx st) rfl, h⟩

theorem yields_pure (a : α) : Yields (pure a : Run σ α) (.ok a) := fun _ =>
  rfl

theorem yields_ofExcept (o : Except Error α) : Yields (ofExcept o : Run σ α) o := fun _ =>
  rfl

theorem yields_ofRejection (o : Except Rejection α) :
    Yields (ofRejection o : Run σ α) (o.mapError Rejection.error) := fun _ =>
  rfl

/-- A sequence comes to what its second part comes to for the result of the first one. -/
theorem Yields.bind {f : α → Run σ β} {o : Except Error α} {g : α → Except Error β}
    (hx : Yields x o) (hf : ∀ a, o = .ok a → Yields (f a) (g a)) : Yields (x >>= f) (o.bind g) := by
  intro st
  cases o with
  | ok a => rw [run_bind_of_run (Prod.ext (hx st) rfl), hf a rfl, Except.bind]
  | error e =>
    rw [run_bind_of_error (hx st)]
    rfl

theorem Yields.bind_ok {f : α → Run σ β} {a : α} {o : Except Error β} (hx : Yields x (.ok a))
    (hf : Yields (f a) o) : Yields (x >>= f) o :=
  hx.bind (g := fun _ => o) fun _ h => Except.ok.inj h ▸ hf

theorem Yields.bind_error {f : α → Run σ β} {e : Error} (hx : Yields x (.error e)) :
    Yields (x >>= f) (.error e) :=
  hx.bind (g := fun _ => .error e) nofun

theorem Yields.outcome {o : Except Error α} (hx : Yields x o) : Yields x.outcome (.ok o) :=
  fun st => congrArg Except.ok (hx st)

theorem yields_query {answer : String → Except String Table} (hs : s.IsSteady answer)
    (text : String) : Yields (s.query text) ((answer text).mapError Error.execution) := fun st =>
  congrArg (Except.mapError Error.execution) (hs.select text st)

theorem yields_isCanceled {canceled : Bool} (h : ∀ st, s.canceled st = canceled) :
    Yields s.isCanceled (.ok canceled) := fun st =>
  congrArg Except.ok (h st)

theorem yields_checkCanceled (h : ∀ st, s.canceled st = false) : Yields s.checkCanceled (.ok ()) :=
  (yields_isCanceled h).bind_ok (yields_pure ())

/-- A canceled request gets no further than the next look. -/
theorem yields_checkCanceled_of_canceled (h : ∀ st, s.canceled st = true) :
    Yields s.checkCanceled (.error .canceled) :=
  (yields_isCanceled h).bind_ok (yields_ofExcept (.error .canceled))

/-! ## Any service -/

/-- From every state the operation ends with a result that has `Q`, or with a failure that has
`E`. -/
structure Ends (x : Run σ α) (Q : α → Prop) (E : Error → Prop) : Prop where
  /-- What a result has. -/
  ok : ∀ {st a}, (x.run st).1 = .ok a → Q a
  /-- What a failure has. -/
  error : ∀ {st e}, (x.run st).1 = .error e → E e

variable {E : Error → Prop}

theorem ends_pure {a : α} (h : Q a) : Ends (pure a : Run σ α) Q E :=
  ⟨fun hok => Except.ok.inj hok ▸ h, nofun⟩

theorem ends_ofExcept (o : Except Error α) :
    Ends (ofExcept o : Run σ α) (fun a => o = .ok a) fun e => o = .error e :=
  ⟨id, id⟩

theorem ends_ofRejection (o : Except Rejection α) :
    Ends (ofRejection o : Run σ α) (fun a => o = .ok a) fun e =>
      ∃ rejection, o = .error rejection ∧ e = rejection.error := by
  cases o with
  | ok a => exact ⟨fun h => congrArg Except.ok (Except.ok.inj h), nofun⟩
  | error rejection => exact ⟨nofun, fun h => ⟨rejection, rfl, (Except.error.inj h).symm⟩⟩

theorem ends_query (s : Service σ) (text : String) :
    Ends (s.query text) (fun _ => True) fun e => ∃ reason, e = .execution reason := by
  refine ⟨fun _ => trivial, fun {st e} h => ?_⟩
  have hanswer : (s.select text st).1.mapError Error.execution = .error e := h
  cases hselect : (s.select text st).1 with
  | ok table =>
    rw [hselect] at hanswer
    cases hanswer
  | error reason =>
    rw [hselect] at hanswer
    exact ⟨reason, (Except.error.inj hanswer).symm⟩

/-- A sequence fails where its first part does, and otherwise ends like its second one does for a
result of the first. -/
theorem Ends.bind {E' : Error → Prop} {f : α → Run σ β} (hx : Ends x Q E') (hE : ∀ e, E' e → E e)
    (hf : ∀ a, Q a → Ends (f a) R E) : Ends (x >>= f) R E := by
  constructor
  · intro st b hb
    cases ha : (x.run st).1 with
    | ok a =>
      rw [run_bind_of_run (Prod.ext ha rfl)] at hb
      exact (hf a (hx.ok ha)).ok hb
    | error e =>
      rw [run_bind_of_error ha] at hb
      cases hb
  · intro st e he
    cases ha : (x.run st).1 with
    | ok a =>
      rw [run_bind_of_run (Prod.ext ha rfl)] at he
      exact (hf a (hx.ok ha)).error he
    | error e' =>
      rw [run_bind_of_error ha] at he
      cases he
      exact hE e (hx.error ha)

theorem ends_isCanceled (s : Service σ) : Ends s.isCanceled (fun _ => True) fun _ => False :=
  ⟨fun _ => trivial, nofun⟩

theorem ends_checkCanceled (s : Service σ) :
    Ends s.checkCanceled (fun _ => True) fun e => e = .canceled := by
  refine (ends_isCanceled s).bind (fun _ h => h.elim) fun canceled _ => ?_
  cases canceled with
  | false => exact ends_pure trivial
  | true => exact ⟨nofun, fun h => (Except.error.inj h).symm⟩

end Run

end ContactGraph
