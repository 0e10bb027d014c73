import ContactGraph.Proofs.Reading.Limit
import ContactGraph.Proofs.Reading.Trace

/-!
# Failed queries

What becomes of a query that fails. `Service.logged` is a service that keeps its answers, and an
operation surfaces them when the first failed query is what it comes to (`Surfaces`). Reading
contacts of several types does, and so does reading their ids; `Run.Reports` says so, and that
keeping the answers changes nothing.

A sorted fetch with a limit goes on when the queries for its ids fail, whatever the reason, and
reads the contacts directly. So a failed query comes to nothing when it is one of those, and only
then (`surfaces_or_prefetched`); a store that is down for the first query goes unnoticed
(`fetch_after_failure`).
-/

namespace ContactGraph

open Query

/-! ## Answers -/

/-- The answers to queries, in the order in which these were sent. -/
abbrev Answers := List (Except String Table)

/-- Why the first query failed that did. -/
def firstFailure? : Answers → Option String
  | [] => none
  | .error reason :: _ => some reason
  | .ok _ :: answers => firstFailure? answers

theorem firstFailure?_append_of_none {answers : Answers} (h : firstFailure? answers = none)
    (more : Answers) : firstFailure? (answers ++ more) = firstFailure? more := by
  induction answers with
  | nil => rfl
  | cons answer answers ih =>
    cases answer with
    | ok table => exact ih h
    | error reason => cases h

theorem firstFailure?_append_of_some {answers : Answers} {reason : String}
    (h : firstFailure? answers = some reason) (more : Answers) :
    firstFailure? (answers ++ more) = some reason := by
  induction answers with
  | nil => cases h
  | cons answer answers ih =>
    cases answer with
    | ok table => exact ih h
    | error reason' => exact h

/-- The first query that failed, if one did, is what is come to. -/
def Surfaces {α : Type} (answers : Answers) (o : Except Error α) : Prop :=
  ∀ reason, firstFailure? answers = some reason → o = .error (.execution reason)

namespace Surfaces

variable {α : Type} {answers more : Answers} {o : Except Error α}

theorem nil : Surfaces [] o := nofun

theorem none_of_ok {a : α} (h : Surfaces answers (.ok a : Except Error α)) :
    firstFailure? answers = none := by
  cases hfirst : firstFailure? answers with
  | none => rfl
  | some reason => cases h reason hfirst

theorem append (h : Surfaces answers o) (hmore : Surfaces more o) :
    Surfaces (answers ++ more) o := by
  intro reason hreason
  cases hfirst : firstFailure? answers with
  | none =>
    rw [firstFailure?_append_of_none hfirst] at hreason
    exact hmore reason hreason
  | some reason' =>
    rw [firstFailure?_append_of_some hfirst] at hreason
    cases hreason
    exact h reason hfirst

theorem map {β : Type} (h : Surfaces answers o) (f : α → β) : Surfaces answers (o.map f) := by
  intro reason hreason
  rw [h reason hreason]
  rfl

end Surfaces

/-! ## Keeping answers -/

/-- The service with its answers kept. -/
def Service.logged {σ : Type} (s : Service σ) : Service (σ × Answers) where
  select text st :=
    let (answer, st') := s.select text st.1
    (answer, st', st.2 ++ [answer])
  resolve iris st :=
    let (answer, st') := s.resolve iris st.1
    (answer, st', st.2)
  canceled st := s.canceled st.1

/-- An answer that is kept is a note. -/
theorem Service.logged_eq_noting {σ : Type} (s : Service σ) :
    s.logged = s.noting fun _ answer => answer :=
  rfl

namespace Run

variable {σ α β : Type} {x : Run (σ × Answers) α} {y : Run σ α}

/-- The answers to the queries that an operation sends from a state. -/
def answers (x : Run (σ × Answers) α) (st : σ) : Answers :=
  (x.run (st, [])).2.2

/-- With answers kept, the operation `x` does what `y` does, and surfaces its failed queries. -/
structure Reports (x : Run (σ × Answers) α) (y : Run σ α) : Prop where
  /-- Answers are kept, and nothing else is different. -/
  run_eq : ∀ st log, x.run (st, log) = ((y.run st).1, (y.run st).2, log ++ x.answers st)
  /-- Failed queries surface. -/
  surfaces : ∀ st, Surfaces (x.answers st) (y.run st).1

/-- That answers are reported is a property of what is noted. -/
theorem reports_iff_traces : Reports x y ↔ Traces x y Surfaces :=
  ⟨fun h => ⟨h.run_eq, h.surfaces⟩, fun h => ⟨h.run_eq, h.traces⟩⟩

theorem reports_pure (a : α) : Reports (pure a : Run (σ × Answers) α) (pure a) :=
  reports_iff_traces.mpr (traces_pure Surfaces.nil)

theorem reports_ofExcept (o : Except Error α) :
    Reports (ofExcept o : Run (σ × Answers) α) (ofExcept o) :=
  reports_iff_traces.mpr (traces_ofExcept Surfaces.nil)

theorem reports_ofRejection (o : Except Rejection α) :
    Reports (ofRejection o : Run (σ × Answers) α) (ofRejection o) :=
  reports_ofExcept _

theorem reports_isCanceled (s : Service σ) : Reports s.logged.isCanceled s.isCanceled := by
  rw [Service.logged_eq_noting, reports_iff_traces]
  exact (traces_isCanceled s).mono fun _ _ hlog => hlog ▸ Surfaces.nil

theorem reports_query (s : Service σ) (text : String) :
    Reports (s.logged.query text) (s.query text) := by
  rw [Service.logged_eq_noting, reports_iff_traces]
  refine (traces_query s text).mono ?_
  rintro _ _ ⟨answer, rfl, rfl⟩ reason hreason
  cases answer with
  | ok table => cases hreason
  | error reason' =>
    cases hreason
    rfl

/-- A sequence surfaces its failed queries when its parts do : once one has failed, no other is
sent. -/
theorem Reports.bind {f : α → Run (σ × Answers) β} {g : α → Run σ β} (hx : Reports x y)
    (hf : ∀ a, Reports (f a) (g a)) : Reports (x >>= f) (y >>= g) := by
  refine reports_iff_traces.mpr ((reports_iff_traces.mp hx).bind
    (fun a => reports_iff_traces.mp (hf a)) ?_ ?_)
  · intro e answers h reason hreason
    rw [← Except.error.inj (h reason hreason)]
  · intro a o front back hfront hback reason hreason
    rw [firstFailure?_append_of_none hfront.none_of_ok] at hreason
    exact hback reason hreason

theorem reports_checkCanceled (s : Service σ) : Reports s.logged.checkCanceled s.checkCanceled := by
  refine (reports_isCanceled s).bind fun canceled => ?_
  cases canceled with
  | false => exact reports_pure ()
  | true => exact reports_ofExcept (.error .canceled)

end Run

namespace Reader

variable {σ : Type} {r : Reader} {s : Service σ} {request : Request} {limit : Option Nat}
  {schemas : List Schema} {cs : List Contact} {st : σ}

/-! ## Contacts and ids -/

theorem reports_fetchType (r : Reader) (s : Service σ) (request : Request) (limit : Option Nat)
    (schema : Schema) :
    (r.fetchType s.logged request limit schema).Reports (r.fetchType s request limit schema) := by
  refine (Run.reports_ofRejection _).bind fun p => ?_
  refine (Run.reports_query s _).bind fun table => ?_
  refine (Run.reports_isCanceled s).bind fun canceled => ?_
  exact (Run.reports_ofExcept _).bind fun _ => Run.reports_pure _

theorem reports_fetchTypes (r : Reader) (s : Service σ) (request : Request) (limit : Option Nat)
    (schemas : List Schema) (cs : List Contact) :
    (r.fetchTypes s.logged request limit schemas cs).Reports
      (r.fetchTypes s request limit schemas cs) := by
  induction schemas generalizing cs with
  | nil => exact Run.reports_pure cs
  | cons schema schemas ih =>
    rw [fetchTypes, fetchTypes]
    refine (Run.reports_checkCanceled s).bind fun _ => ?_
    split
    · exact Run.reports_pure cs
    · exact (reports_fetchType r s request _ schema).bind fun more => ih _

theorem reports_fetchDirectly (r : Reader) (s : Service σ) (request : Request) :
    (r.fetchDirectly s.logged request).Reports (r.fetchDirectly s request) :=
  reports_fetchTypes ..

theorem reports_fetchByIds (r : Reader) (s : Service σ) (hint : FetchHint) (ids : List LocalId) :
    (r.fetchByIds s.logged hint ids).Reports (r.fetchByIds s hint ids) :=
  (reports_fetchTypes ..).bind fun _ => Run.reports_pure _

theorem reports_fetchAllKeyedIds (r : Reader) (s : Service σ) (request : Request)
    (schemas : List Schema) :
    (r.fetchAllKeyedIds s.logged request schemas).Reports
      (r.fetchAllKeyedIds s request schemas) := by
  induction schemas with
  | nil => exact Run.reports_pure []
  | cons schema schemas ih =>
    have hkeyed : (r.fetchKeyedIds s.logged request schema).Reports
        (r.fetchKeyedIds s request schema) := by
      refine (Run.reports_checkCanceled s).bind fun _ => ?_
      refine (Run.reports_ofRejection _).bind fun select => ?_
      exact (Run.reports_query s _).bind fun table => Run.reports_pure _
    exact hkeyed.bind fun here => ih.bind fun there => Run.reports_pure _

theorem reports_fetchSortedIds (r : Reader) (s : Service σ) (request : Request) :
    (r.fetchSortedIds s.logged request).Reports (r.fetchSortedIds s request) :=
  (reports_fetchAllKeyedIds r s request r.schemas.toList).bind fun _ => Run.reports_pure _

/-! ## Whole fetches -/

/-- Whether a fetch asks for ids before it asks for contacts. -/
def prefetches (request : Request) : Bool :=
  request.hint.maxCount.isSome && !request.sorting.isEmpty

/-- The answers to the queries for ids that a fetch starts with. -/
def prefetched (r : Reader) (s : Service σ) (request : Request) (st : σ) : Answers :=
  if prefetches request then (r.fetchSortedIds s.logged request).answers st else []

/-- How a fetch goes on when it has asked for ids. -/
def afterIds (r : Reader) (s : Service σ) (request : Request) :
    Except Error (List ContactId) → Run σ (List Contact)
  | .ok [] => pure []
  | .ok (id :: ids) => r.fetchByIds s request.hint ((id :: ids).map (·.number))
  | .error e => if e.kind = .canceled then throw e else r.fetchDirectly s request

theorem fetch_of_prefetches (s : Service σ) (h : prefetches request = true) :
    r.fetch s request = (r.fetchSortedIds s request).outcome >>= r.afterIds s request := by
  rw [fetch]
  refine (if_pos h).trans (congrArg _ (funext fun o => ?_))
  cases o with
  | ok ids => cases ids <;> rfl
  | error e => rfl

theorem fetch_of_not_prefetches (s : Service σ) (h : ¬ prefetches request = true) :
    r.fetch s request = r.fetchDirectly s request :=
  if_neg h

/-- Whatever the reason, a fetch goes on without ids when a query for them fails. -/
theorem afterIds_execution (r : Reader) (s : Service σ) (request : Request) (reason : String) :
    r.afterIds s request (.error (.execution reason)) = r.fetchDirectly s request := by
  have hkind : (Error.execution reason).kind ≠ .canceled := ErrorKind.noConfusion
  rw [afterIds, if_neg hkind]

theorem reports_afterIds (r : Reader) (s : Service σ) (request : Request)
    (o : Except Error (List ContactId)) :
    (r.afterIds s.logged request o).Reports (r.afterIds s request o) := by
  match o with
  | .ok [] => exact Run.reports_pure []
  | .ok (id :: ids) => exact reports_fetchByIds r s request.hint _
  | .error e =>
    rw [afterIds, afterIds]
    split
    · exact Run.reports_ofExcept (.error e)
    · exact reports_fetchDirectly r s request

/-- A fetch surfaces the failed queries behind its queries for ids. When one of these fails, it goes
on as if it had sent none. -/
theorem exists_run_fetch (r : Reader) (s : Service σ) (request : Request) (st : σ) (log : Answers) :
    ∃ rest,
      (r.fetch s.logged request).run (st, log) =
        (((r.fetch s request).run st).1, ((r.fetch s request).run st).2,
          log ++ (r.prefetched s request st ++ rest)) ∧
      Surfaces rest ((r.fetch s request).run st).1 ∧
      ∀ reason, firstFailure? (r.prefetched s request st) = some reason →
        (r.fetch s request).run st =
          (r.fetchDirectly s request).run ((r.fetchSortedIds s request).run st).2 := by
  by_cases hprefetches : prefetches request = true
  · have hids := reports_fetchSortedIds r s request
    have hafter := reports_afterIds r s request ((r.fetchSortedIds s request).run st).1
    rw [prefetched, if_pos hprefetches, fetch_of_prefetches _ hprefetches,
      fetch_of_prefetches _ hprefetches, Run.run_outcome_bind, Run.run_outcome_bind, hids.run_eq]
    refine ⟨_, ?_, hafter.surfaces _, fun reason hreason => ?_⟩
    · rw [hafter.run_eq, List.append_assoc]
    · rw [hids.surfaces st reason hreason, afterIds_execution]
  · have hdirectly := reports_fetchDirectly r s request
    rw [prefetched, if_neg hprefetches, fetch_of_not_prefetches _ hprefetches,
      fetch_of_not_prefetches _ hprefetches]
    exact ⟨_, hdirectly.run_eq st log, hdirectly.surfaces st, nofun⟩

/-- A fetch of ids surfaces the failed queries for them, and those behind the ones for ids with
which it starts over. -/
theorem exists_run_fetchIds (r : Reader) (s : Service σ) (request : Request) (st : σ) :
    ∃ again rest,
      (r.fetchIds s.logged request).run (st, []) =
        (((r.fetchIds s request).run st).1, ((r.fetchIds s request).run st).2,
          (r.fetchSortedIds s.logged request).answers st ++ (again ++ rest)) ∧
      Surfaces ((r.fetchSortedIds s.logged request).answers st) ((r.fetchIds s request).run st).1 ∧
      Surfaces rest ((r.fetchIds s request).run st).1 ∧
      (again = [] ∨ again =
        r.prefetched s (narrowed request) ((r.fetchSortedIds s request).run st).2) := by
  have hids := reports_fetchSortedIds r s request
  have hsurfaces := hids.surfaces st
  rw [fetchIds, fetchIds, Run.run_outcome_bind, Run.run_outcome_bind, hids.run_eq, List.nil_append]
  generalize (r.fetchSortedIds s request).run st = found at hsurfaces ⊢
  obtain ⟨o, st'⟩ := found
  cases o with
  | ok ids =>
    refine ⟨[], [], ?_, ?_, Surfaces.nil, .inl rfl⟩
    · rw [List.append_nil, List.append_nil]
      rfl
    · intro reason hreason
      cases hsurfaces reason hreason
  | error e =>
    dsimp only at hsurfaces ⊢
    split
    · rename_i hkind
      simp only [Bool.and_eq_true, decide_eq_true_eq] at hkind
      obtain ⟨rest, hrun, hrest, -⟩ := exists_run_fetch r s (narrowed request) st'
        ((r.fetchSortedIds s.logged request).answers st)
      refine ⟨_, rest, ?_, fun reason hreason => ?_, ?_, .inr rfl⟩
      · rw [Run.run_bind_pure, Run.run_bind_pure, hrun]
      · -- the failure is one of the request, so no query has failed
        cases hsurfaces reason hreason
        exact absurd hkind.1 nofun
      · rw [Run.run_bind_pure]
        exact hrest.map _
    · refine ⟨[], [], ?_, hsurfaces, Surfaces.nil, .inl rfl⟩
      rw [List.append_nil, List.append_nil]
      rfl

/-- Without a limit, or without an order, no ids are asked for first. -/
theorem prefetched_eq_nil (h : request.hint.maxCount = none ∨ request.sorting = []) (r : Reader)
    (s : Service σ) (st : σ) : r.prefetched s request st = [] := by
  rw [prefetched, if_neg]
  rcases h with h | h <;> simp [prefetches, h]

/-- A failed query is what a fetch comes to, unless it is one of the queries for ids that a sorted
fetch with a limit starts with : behind these the fetch goes on directly. A fetch of ids surfaces
its queries for ids, but when it starts over as such a fetch the same holds of it. Keeping the
answers changes nothing. -/
theorem surfaces_or_prefetched (r : Reader) (s : Service σ) (request : Request) (st : σ) :
    (∃ rest,
      (r.fetch s.logged request).run (st, []) =
        (((r.fetch s request).run st).1, ((r.fetch s request).run st).2,
          r.prefetched s request st ++ rest) ∧
      Surfaces rest ((r.fetch s request).run st).1 ∧
      ∀ reason, firstFailure? (r.prefetched s request st) = some reason →
        (r.fetch s request).run st =
          (r.fetchDirectly s request).run ((r.fetchSortedIds s request).run st).2) ∧
    (∃ again rest,
      (r.fetchIds s.logged request).run (st, []) =
        (((r.fetchIds s request).run st).1, ((r.fetchIds s request).run st).2,
          (r.fetchSortedIds s.logged request).answers st ++ (again ++ rest)) ∧
      Surfaces ((r.fetchSortedIds s.logged request).answers st) ((r.fetchIds s request).run st).1 ∧
      Surfaces rest ((r.fetchIds s request).run st).1 ∧
      (again = [] ∨ again =
        r.prefetched s (narrowed request) ((r.fetchSortedIds s request).run st).2)) ∧
    (request.hint.maxCount = none ∨ request.sorting = [] →
      Surfaces ((r.fetch s.logged request).answers st) ((r.fetch s request).run st).1 ∧
      Surfaces ((r.fetchIds s.logged request).answers st) ((r.fetchIds s request).run st).1) := by
  refine ⟨exists_run_fetch r s request st [], exists_run_fetchIds r s request st, fun h => ⟨?_, ?_⟩⟩
  · obtain ⟨rest, hrun, hrest, -⟩ := exists_run_fetch r s request st []
    rw [Run.answers, hrun, prefetched_eq_nil h]
    exact hrest
  · obtain ⟨again, rest, hrun, hfirst, hrest, hagain⟩ := exists_run_fetchIds r s request st
    have hnone : again = [] := by
      have hnarrowed : (narrowed request).hint.maxCount = none ∨ (narrowed request).sorting = [] :=
        h
      rw [prefetched_eq_nil hnarrowed, or_self] at hagain
      exact hagain
    rw [Run.answers, hrun, hnone]
    exact hfirst.append hrest

/-! ## A store that wakes up -/

/-- A service that is down for its first query, and gives a row from then on. -/
def wakingService : Service Bool where
  select _ down := (if down then .error "down" else .ok [[none, some "1"]], false)
  resolve _ down := (.ok [], down)
  canceled _ := false

/-- Without a limit, that it was down is what a fetch comes to. With one, the query for ids is lost
on it, and it goes on directly. -/
theorem surfaces_or_prefetched_waking :
    ((personReader.fetch wakingService byNickname).run true).1 = .error (.execution "down") ∧
    ((personReader.fetchIds wakingService byNickname).run true).1 = .error (.execution "down") ∧
    (personReader.fetch wakingService (firstTwo.upTo 1)).run true =
      (personReader.fetchDirectly wakingService (firstTwo.upTo 1)).run false := by
  have hunlimited := (surfaces_or_prefetched personReader wakingService byNickname true).2.2
    (.inl rfl)
  obtain ⟨rest, -, -, hdirectly⟩ :=
    (surfaces_or_prefetched personReader wakingService (firstTwo.upTo 1) true).1
  exact ⟨hunlimited.1 "down" (by decide +kernel), hunlimited.2 "down" (by decide +kernel),
    hdirectly "down" (by decide +kernel)⟩

/-- The first query of a fetch fails, and the fetch succeeds. -/
theorem fetch_after_failure :
    firstFailure? ((personReader.fetch wakingService.logged (firstTwo.upTo 1)).answers true) =
      some "down" ∧
    ∃ cs, ((personReader.fetch wakingService (firstTwo.upTo 1)).run true).1 = .ok cs := by
  refine ⟨by decide +kernel, ?_⟩
  have hok : ((personReader.fetch wakingService (firstTwo.upTo 1)).run true).1.toOption.isSome := by
    decide +kernel
  cases h : ((personReader.fetch wakingService (firstTwo.upTo 1)).run true).1 with
  | ok cs => exact ⟨cs, rfl⟩
  | error e =>
    rw [h] at hok
    cases hok

end Reader

end ContactGraph
