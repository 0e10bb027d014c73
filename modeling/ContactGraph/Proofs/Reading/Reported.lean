import ContactGraph.Proofs.Query.Ending
import ContactGraph.Proofs.Reading.Failure
import ContactGraph.Proofs.Reading.MaxCount
import ContactGraph.Proofs.Reading.Trace

/-!
# Reported queries

The queries that a request is reported to send, and those that a fetch sends. `Service.recorded` is
a service that keeps its exchanges. Those of a fetch are the queries for ids that it starts with,
and the queries for contacts, one for each type (`Inquiry`), from whose answers the contacts are
read (`Inquires`).

A query for contacts is what is reported, unless the fetch goes by the ids that it got first : then
it asks for the contacts of these ids, in no order, and never sends what is reported
(`exists_inquiries_fetch`).
-/

namespace ContactGraph

open Query

/-- A query and its answer. -/
structure Exchange where
  /-- The text of the query. -/
  text : String
  /-- The answer. -/
  answer : Except String Table

/-- The service with its exchanges kept. -/
abbrev Service.recorded {σ : Type} (s : Service σ) : Service (σ × List Exchange) :=
  s.noting Exchange.mk

/-- A schema of a set is found under its type. -/
theorem SchemaSet.get?_type_of_mem {set : SchemaSet} {schema : Schema} (h : schema ∈ set.toList) :
    set.get? schema.type = some schema := by
  rcases List.mem_append.mp h with h | h
  · rw [set.person_type schema (Option.mem_toList.mp h)]
    exact Option.mem_toList.mp h
  · rw [set.group_type schema (Option.mem_toList.mp h)]
    exact Option.mem_toList.mp h

namespace Reader

variable {σ : Type} {r : Reader} {request : Request} {schema : Schema} {schemas : List Schema}
  {limit : Option Nat} {known : List Contact} {log : List Exchange}
  {o : Except Error (List Contact)}

/-! ## Reports -/

/-- What is reported for a type is the query of its plan. -/
theorem queryText_eq_ok_iff (h : schema ∈ r.schemas.toList) {text : String} :
    r.queryText schema.type request = .ok text ↔
      ∃ p, plan (r.scope schema) request = .ok p ∧ p.select.text = text := by
  rw [queryText, Query.queryText, schemaFor, SchemaSet.get?_type_of_mem h, mapError_eq_ok_iff]
  show (plan (r.scope schema) request).bind (fun p => .ok p.select.text) = _ ↔ _
  cases plan (r.scope schema) request <;> simp [Except.bind]

theorem idQueryText_eq_ok (h : schema ∈ r.schemas.toList) {select : Select}
    (hselect : idSelect (r.scope schema) request = .ok select) :
    idQueryText r.schemas r.settings r.ids schema.type request = .ok select.text := by
  rw [idQueryText, schemaFor, SchemaSet.get?_type_of_mem h]
  show (idSelect (r.scope schema) request).bind _ = _
  rw [hselect]
  rfl

/-! ## Queries for contacts -/

/-- A query for the contacts of a type, with its answer. -/
structure Inquiry where
  /-- The query, and what is needed to read its answer. -/
  plan : Plan
  /-- The answer. -/
  answer : Except String Table

namespace Inquiry

/-- The exchange with the service. -/
def exchange (q : Inquiry) : Exchange :=
  ⟨q.plan.select.text, q.answer⟩

/-- The contact is one of those that are read from the answer. -/
def Tells (r : Reader) (request : Request) (q : Inquiry) (c : Contact) : Prop :=
  ∃ limit table, q.answer = .ok table ∧ c ∈ r.readType request limit q.plan table

end Inquiry

/-- The exchanges are queries for the contacts of types, one for each from the first one on. When
contacts are come to, it is one for each type, unless there is no room left; and each contact is
known, or read from an answer. -/
def Inquires (r : Reader) (request : Request) (limit : Option Nat) (schemas : List Schema)
    (known : List Contact) (log : List Exchange) (o : Except Error (List Contact)) : Prop :=
  ∃ inquiries : List Inquiry, log = inquiries.map (·.exchange) ∧
    (inquiries.map (·.plan.schema)) <+: schemas ∧
    (∀ q ∈ inquiries, plan (r.scope q.plan.schema) request = .ok q.plan) ∧
    ∀ cs, o = .ok cs →
      (inquiries.map (·.plan.schema) = schemas ∨ remaining limit cs = some 0) ∧
      ∀ c ∈ cs, c ∈ known ∨ ∃ q ∈ inquiries, q.Tells r request c

/-- The exchange of a query for the contacts of a type. The contacts that are come to are read from
its answer. -/
def InquiresOnce (r : Reader) (request : Request) (p : Plan) (log : List Exchange)
    (o : Except Error (List Contact)) : Prop :=
  ∃ q : Inquiry, q.plan = p ∧ log = [q.exchange] ∧ ∀ cs, o = .ok cs → ∀ c ∈ cs, q.Tells r request c

/-- Without a query, there are the contacts that are known. -/
theorem inquires_ok (h : [] = schemas ∨ remaining limit known = some 0) :
    r.Inquires request limit schemas known [] (.ok known) := by
  refine ⟨[], rfl, List.nil_prefix, List.forall_mem_nil _, ?_⟩
  rintro _ ⟨⟩
  exact ⟨h, fun c hc => .inl hc⟩

theorem inquires_error (e : Error) : r.Inquires request limit schemas known [] (.error e) := by
  refine ⟨[], rfl, List.nil_prefix, List.forall_mem_nil _, ?_⟩
  rintro _ ⟨⟩

/-- One more query for contacts, in front of the others. -/
theorem InquiresOnce.cons {p : Plan} {front : List Exchange} {more : List Contact}
    (h : r.InquiresOnce request p front (.ok more)) (hp : plan (r.scope schema) request = .ok p)
    (hlog : r.Inquires request limit schemas (Sort.mergeContacts request.sorting known more) log
      o) :
    r.Inquires request limit (schema :: schemas) known (front ++ log) o := by
  obtain ⟨q, rfl, rfl, hmore⟩ := h
  obtain ⟨inquiries, rfl, hprefix, hplans, htold⟩ := hlog
  have hschema : q.plan.schema = schema := schema_of_plan hp
  refine ⟨q :: inquiries, rfl, ?_, ?_, fun cs hcs => ⟨?_, fun c hc => ?_⟩⟩
  · rw [List.map_cons, hschema]
    exact List.prefix_cons_inj schema |>.mpr hprefix
  · exact List.forall_mem_cons.mpr ⟨by rw [hschema]; exact hp, hplans⟩
  · rw [List.map_cons, hschema]
    exact (htold cs hcs).1.imp_left fun hall => by rw [hall]
  · rcases (htold cs hcs).2 c hc with hmerged | ⟨q', hq', hc'⟩
    · rw [Sort.mergeContacts, List.mem_merge] at hmerged
      exact hmerged.imp id fun hc => ⟨q, List.mem_cons_self, hmore more rfl c hc⟩
    · exact .inr ⟨q', List.mem_cons_of_mem q hq', hc'⟩

/-- A query for contacts that comes to a failure is the last one. -/
theorem InquiresOnce.of_error {p : Plan} {e : Error}
    (h : r.InquiresOnce request p log (.error e)) (hp : plan (r.scope schema) request = .ok p) :
    r.Inquires request limit (schema :: schemas) known log (.error e) := by
  obtain ⟨q, rfl, rfl, -⟩ := h
  have hschema : q.plan.schema = schema := schema_of_plan hp
  refine ⟨[q], rfl, ?_, ?_, ?_⟩
  · rw [List.map_singleton, hschema]
    exact List.prefix_cons_inj schema |>.mpr List.nil_prefix
  · rw [List.forall_mem_singleton, hschema]
    exact hp
  · rintro _ ⟨⟩

/-- Contacts that come from a table are read from it. -/
theorem eq_readType_of_contacts {limit : Option Nat} {p : Plan} {canceled : Bool} {table : Table}
    {cs : List Contact}
    (h : (Result.contacts r.frame p limit canceled table).map (r.arrange p request.sorting) =
      .ok cs) : cs = r.readType request limit p table := by
  rw [Result.contacts, Result.gather] at h
  split at h
  · cases h
  · cases h
    rfl

variable (r : Reader) (s : Service σ) (request : Request)

/-- The contacts of a type are read from the answer to one query, unless none can be made. -/
theorem traces_fetchType (limit : Option Nat) (schema : Schema) :
    (r.fetchType s.recorded request limit schema).Traces (r.fetchType s request limit schema)
      fun log o => (log = [] ∧ ∃ e, o = .error e) ∨
        ∃ p, plan (r.scope schema) request = .ok p ∧ r.InquiresOnce request p log o := by
  refine (Run.traces_ofRejection (T := fun log o =>
    log = [] ∧ o = (plan (r.scope schema) request).mapError Rejection.error) ⟨rfl, rfl⟩).bind
    (U := r.InquiresOnce request) (fun p => ?_) ?_ ?_
  · refine (Run.traces_query s p.select.text).bind
      (U := fun table log o => log = [] ∧ ∀ cs, o = .ok cs → cs = r.readType request limit p table)
      (fun table => ?_) ?_ ?_
    · refine (Run.traces_isCanceled s).silent_bind (fun canceled => ?_) fun e => ⟨rfl, ?_⟩
      · exact Run.traces_ofExcept_map ⟨rfl, fun cs => eq_readType_of_contacts⟩
      · rintro _ ⟨⟩
    · rintro e _ ⟨answer, rfl, -⟩
      refine ⟨⟨p, answer⟩, rfl, rfl, ?_⟩
      rintro _ ⟨⟩
    · rintro table o _ _ ⟨answer, rfl, hanswer⟩ ⟨rfl, hcs⟩
      have htable : answer = .ok table := mapError_eq_ok_iff.mp hanswer.symm
      exact ⟨⟨p, answer⟩, rfl, rfl, fun cs ho c hc => ⟨limit, table, htable, hcs cs ho ▸ hc⟩⟩
  · rintro e _ ⟨rfl, -⟩
    exact .inl ⟨rfl, e, rfl⟩
  · rintro p o _ back ⟨rfl, hp⟩ hback
    exact .inr ⟨p, mapError_eq_ok_iff.mp hp.symm, hback⟩

theorem traces_fetchTypes (limit : Option Nat) (schemas : List Schema) (known : List Contact) :
    (r.fetchTypes s.recorded request limit schemas known).Traces
      (r.fetchTypes s request limit schemas known) (r.Inquires request limit schemas known) := by
  induction schemas generalizing known with
  | nil => exact Run.traces_pure (inquires_ok (.inl rfl))
  | cons schema schemas ih =>
    rw [fetchTypes, fetchTypes]
    refine (Run.traces_checkCanceled s).silent_bind (fun _ => ?_) inquires_error
    split
    · rename_i hfull
      exact Run.traces_pure (inquires_ok (.inr hfull))
    · refine (traces_fetchType r s request _ schema).bind
        (U := fun more =>
          r.Inquires request limit schemas (Sort.mergeContacts request.sorting known more))
        (fun more => ih _) ?_ ?_
      · rintro e log (⟨rfl, -⟩ | ⟨p, hp, hlog⟩)
        · exact inquires_error e
        · exact hlog.of_error hp
      · rintro more o front back (⟨-, e, he⟩ | ⟨p, hp, hfront⟩) hback
        · cases he
        · exact hfront.cons hp hback

theorem traces_fetchDirectly :
    (r.fetchDirectly s.recorded request).Traces (r.fetchDirectly s request)
      (r.Inquires request request.hint.maxCount r.schemas.toList []) :=
  traces_fetchTypes ..

/-- Contacts that are put in the order of their ids are those that were read. -/
theorem traces_fetchByIds (hint : FetchHint) (ids : List LocalId) :
    (r.fetchByIds s.recorded hint ids).Traces (r.fetchByIds s hint ids)
      (r.Inquires { filter := .ids ids, sorting := [], hint } none r.schemas.toList []) := by
  refine (traces_fetchTypes r s _ none r.schemas.toList []).bind
    (U := fun cs log o => log = [] ∧ o = .ok (inOrder ids cs))
    (fun cs => Run.traces_pure ⟨rfl, rfl⟩) ?_ ?_
  · rintro e log ⟨inquiries, hlog, hprefix, hplans, -⟩
    refine ⟨inquiries, hlog, hprefix, hplans, ?_⟩
    rintro _ ⟨⟩
  · rintro cs _ log _ ⟨inquiries, hlog, hprefix, hplans, htold⟩ ⟨rfl, rfl⟩
    refine ⟨inquiries, by rw [List.append_nil, hlog], hprefix, hplans, ?_⟩
    rintro _ ⟨⟩
    obtain ⟨hall, hread⟩ := htold cs rfl
    exact ⟨hall, fun c hc => hread c (Sort.stable_perm.mem_iff.mp hc)⟩

/-! ## Queries for ids -/

/-- The exchanges are the queries that are reported for the ids of types. -/
def AsksIds (r : Reader) (request : Request) (log : List Exchange) : Prop :=
  ∀ e ∈ log, ∃ schema ∈ r.schemas.toList,
    idQueryText r.schemas r.settings r.ids schema.type request = .ok e.text

theorem asksIds_nil {r : Reader} {request : Request} : r.AsksIds request [] :=
  List.forall_mem_nil _

theorem traces_fetchKeyedIds (h : schema ∈ r.schemas.toList) :
    (r.fetchKeyedIds s.recorded request schema).Traces (r.fetchKeyedIds s request schema)
      fun log _ => r.AsksIds request log := by
  refine (Run.traces_checkCanceled s).silent_bind (fun _ => ?_) fun _ => asksIds_nil
  refine (Run.traces_ofRejection (T := fun log o =>
    log = [] ∧ o = (idSelect (r.scope schema) request).mapError Rejection.error) ⟨rfl, rfl⟩).bind
    (U := fun select log _ => ∀ e ∈ log, e.text = select.text) (fun select => ?_) ?_ ?_
  · refine Run.Traces.bind_forall ?_ fun table => Run.traces_pure (List.forall_mem_nil _)
    refine (Run.traces_query s select.text).mono ?_
    rintro _ o ⟨answer, rfl, -⟩
    exact List.forall_mem_singleton.mpr rfl
  · rintro e _ ⟨rfl, -⟩
    exact asksIds_nil
  · rintro select o _ log ⟨rfl, hselect⟩ htexts e he
    refine ⟨schema, h, ?_⟩
    rw [htexts e he]
    exact idQueryText_eq_ok h (mapError_eq_ok_iff.mp hselect.symm)

theorem traces_fetchAllKeyedIds (h : ∀ schema ∈ schemas, schema ∈ r.schemas.toList) :
    (r.fetchAllKeyedIds s.recorded request schemas).Traces (r.fetchAllKeyedIds s request schemas)
      fun log _ => r.AsksIds request log := by
  induction schemas with
  | nil => exact Run.traces_pure asksIds_nil
  | cons schema schemas ih =>
    rw [List.forall_mem_cons] at h
    refine (traces_fetchKeyedIds r s request h.1).bind_forall fun here => ?_
    exact (ih h.2).bind_forall fun there => Run.traces_pure asksIds_nil

theorem traces_fetchSortedIds :
    (r.fetchSortedIds s.recorded request).Traces (r.fetchSortedIds s request)
      fun log _ => r.AsksIds request log :=
  (traces_fetchAllKeyedIds r s request fun _ h => h).bind_forall fun _ =>
    Run.traces_pure asksIds_nil

/-! ## Whole fetches -/

/-- The ids that a fetch goes by : those of the contacts that win, when it asks for them and gets
them. -/
def winners (st : σ) : Option (List ContactId) :=
  if prefetches request then ((r.fetchSortedIds s request).run st).1.toOption else none

/-- The exchanges for these ids. -/
def idExchanges (st : σ) : List Exchange :=
  if prefetches request then (r.fetchSortedIds s.recorded request).notes st else []

/-- What a fetch asks for in its queries for contacts : what it is asked for, or the contacts that
win. -/
def askedFor : Option (List ContactId) → Request
  | none => request
  | some ids => { filter := .ids (ids.map (·.number)), sorting := [], hint := request.hint }

/-- How many contacts it reads at most : as many as it is asked for, or all that win. When none win
there is nothing to read. -/
def limitFor : Option (List ContactId) → Option Nat
  | none => request.hint.maxCount
  | some [] => some 0
  | some (_ :: _) => none

theorem traces_afterIds (o : Except Error (List ContactId)) :
    (r.afterIds s.recorded request o).Traces (r.afterIds s request o)
      (r.Inquires (askedFor request o.toOption) (limitFor request o.toOption) r.schemas.toList
        []) := by
  cases o with
  | ok ids =>
    cases ids with
    | nil => exact Run.traces_pure (inquires_ok (.inr rfl))
    | cons id ids => exact traces_fetchByIds r s request.hint _
  | error e =>
    rw [afterIds, afterIds]
    split
    · exact Run.traces_ofExcept (inquires_error e)
    · exact traces_fetchDirectly r s request

/-- A fetch sends queries for ids, and then queries for contacts. -/
theorem run_fetch_recorded (st : σ) : ∃ log,
    (r.fetch s.recorded request).run (st, []) =
      (((r.fetch s request).run st).1, ((r.fetch s request).run st).2,
        r.idExchanges s request st ++ log) ∧
    r.AsksIds request (r.idExchanges s request st) ∧
    r.Inquires (askedFor request (r.winners s request st))
      (limitFor request (r.winners s request st)) r.schemas.toList [] log
      ((r.fetch s request).run st).1 := by
  rw [idExchanges, winners]
  by_cases hprefetches : prefetches request = true
  · have hids := traces_fetchSortedIds r s request
    have hafter := traces_afterIds r s request ((r.fetchSortedIds s request).run st).1
    rw [if_pos hprefetches, if_pos hprefetches, fetch_of_prefetches _ hprefetches,
      fetch_of_prefetches _ hprefetches, Run.run_outcome_bind, Run.run_outcome_bind, hids.run_eq,
      List.nil_append]
    exact ⟨_, hafter.run_eq .., hids.traces st, hafter.traces _⟩
  · have hdirectly := traces_fetchDirectly r s request
    rw [if_neg hprefetches, if_neg hprefetches, fetch_of_not_prefetches _ hprefetches,
      fetch_of_not_prefetches _ hprefetches]
    exact ⟨_, hdirectly.run_eq .., asksIds_nil, hdirectly.traces st⟩

variable {r s request}

/-- The store follows the orders that it gives ids in. -/
theorem isEvaluable_of_winners {st : σ} {ids : List ContactId}
    (h : r.winners s request st = some ids) (hschema : schema ∈ r.schemas.toList) :
    request.sorting ≠ [] ∧ ∀ o ∈ request.sorting, o.IsEvaluable schema := by
  rw [winners] at h
  split at h
  · rename_i hprefetches
    refine ⟨by simp_all [prefetches], fun o ho => by_contra fun hrefused => ?_⟩
    have hids : ((r.fetchSortedIds s request).run st).1 = .ok ids := by
      cases hrun : ((r.fetchSortedIds s request).run st).1 with
      | ok found =>
        rw [hrun] at h
        exact congrArg Except.ok (Option.some.inj h)
      | error e =>
        rw [hrun] at h
        cases h
    obtain ⟨select, hselect⟩ := ((ends_fetchSortedIds r s request).ok hids).2 schema hschema
    obtain ⟨rejection, hrejection⟩ := idSelect_eq_error (s := r.scope schema) ⟨o, ho, hrefused⟩
    rw [hselect] at hrejection
    cases hrejection
  · cases h

/-- What is reported is what is sent, unless the fetch goes by ids. -/
theorem queryText_eq_ok_iff_winners {st : σ} {q : Inquiry}
    (hschema : q.plan.schema ∈ r.schemas.toList)
    (hplan : plan (r.scope q.plan.schema) (askedFor request (r.winners s request st)) =
      .ok q.plan) :
    r.queryText q.plan.schema.type request = .ok q.exchange.text ↔
      r.winners s request st = none := by
  cases hwinners : r.winners s request st with
  | none =>
    rw [hwinners] at hplan
    exact iff_of_true ((queryText_eq_ok_iff hschema).mpr ⟨q.plan, hplan, rfl⟩) rfl
  | some ids =>
    rw [hwinners] at hplan
    refine iff_of_false (fun hreport => ?_) (Option.some_ne_none ids)
    obtain ⟨p, hp, htext⟩ := (queryText_eq_ok_iff hschema).mp hreport
    obtain ⟨hsorted, horders⟩ := isEvaluable_of_winners hwinners hschema
    exact text_ne_of_plan hp hplan hsorted horders rfl htext

/-- A contact is of the type that a query for it asks for. -/
theorem type_of_tells {q : Inquiry} {c : Contact} (h : q.Tells r request c) :
    c.id.type = q.plan.schema.type := by
  obtain ⟨limit, table, -, hc⟩ := h
  have hcontacts : Result.contacts r.frame q.plan limit false table =
      .ok (Result.readRows r.frame q.plan limit {} table).contacts := rfl
  obtain ⟨part, -, htold⟩ := Result.exists_told_of_contacts hcontacts
  have hid := (perm_id_arrange ..).mem_iff.mp (List.mem_map_of_mem hc)
  rw [htold, Result.mem_told_iff] at hid
  exact hid.1

/-- A fetch sends the queries for ids that are reported, and then one query for contacts for each
type : for all types when it succeeds and there is room, and otherwise from the first one on. From
the answers to these its contacts are read. When the fetch goes by the ids that it got first, none
of them is the query that is reported for the type, and otherwise each is. -/
theorem exists_inquiries_fetch (r : Reader) (s : Service σ) (request : Request) (st : σ) :
    ∃ inquiries : List Inquiry,
      (r.fetch s.recorded request).run (st, []) =
        (((r.fetch s request).run st).1, ((r.fetch s request).run st).2,
          r.idExchanges s request st ++ inquiries.map (·.exchange)) ∧
      r.AsksIds request (r.idExchanges s request st) ∧
      (inquiries.map (·.plan.schema)) <+: r.schemas.toList ∧
      (∀ q ∈ inquiries,
        plan (r.scope q.plan.schema) (askedFor request (r.winners s request st)) = .ok q.plan ∧
        (r.queryText q.plan.schema.type request = .ok q.exchange.text ↔
          r.winners s request st = none)) ∧
      ∀ cs, ((r.fetch s request).run st).1 = .ok cs →
        (inquiries.map (·.plan.schema) = r.schemas.toList ∨
          remaining (limitFor request (r.winners s request st)) cs = some 0) ∧
        ∀ c ∈ cs, ∃ q ∈ inquiries, q.plan.schema.type = c.id.type ∧
          q.Tells r (askedFor request (r.winners s request st)) c := by
  obtain ⟨_, hrun, hids, inquiries, rfl, hprefix, hplans, htold⟩ :=
    run_fetch_recorded r s request st
  refine ⟨inquiries, hrun, hids, hprefix, fun q hq => ?_, fun cs hcs => ?_⟩
  · have hschema : q.plan.schema ∈ r.schemas.toList :=
      hprefix.subset (List.mem_map_of_mem hq)
    exact ⟨hplans q hq, queryText_eq_ok_iff_winners hschema (hplans q hq)⟩
  · obtain ⟨hall, hread⟩ := htold cs hcs
    refine ⟨hall, fun c hc => ?_⟩
    obtain ⟨q, hq, htells⟩ := (hread c hc).resolve_left List.not_mem_nil
    exact ⟨q, hq, (type_of_tells htells).symm, htells⟩

/-- A person is read from the answer to a query that is not the one reported. -/
theorem exists_inquiry_shared : ∃ cs c, ∃ q : Inquiry, ∃ reported,
    ((personReader.fetch (constantService sharedRow) (firstTwo.upTo 1)).run ()).1 = .ok cs ∧
    c ∈ cs ∧ c.id.type = .person ∧
    q.exchange ∈
      (personReader.fetch (constantService sharedRow).recorded (firstTwo.upTo 1)).notes () ∧
    plan (personReader.scope q.plan.schema) byNumber = .ok q.plan ∧
    q.Tells personReader byNumber c ∧
    personReader.queryText .person (firstTwo.upTo 1) = .ok reported ∧
    q.exchange.text ≠ reported := by
  obtain ⟨_, hfetch, hid⟩ := exists_fetch_person_shared
  obtain ⟨c, rfl, hc⟩ := List.map_eq_singleton_iff.mp hid
  have hwinners : personReader.winners (constantService sharedRow) (firstTwo.upTo 1) () =
    some [⟨.person, 1⟩] := rfl
  obtain ⟨_, hrun, -, inquiries, rfl, hprefix, hplans, htold⟩ :=
    run_fetch_recorded personReader (constantService sharedRow) (firstTwo.upTo 1) ()
  obtain ⟨q, hq, htells⟩ :=
    ((htold [c] (hfetch ())).2 c List.mem_cons_self).resolve_left List.not_mem_nil
  have htype : q.plan.schema.type = .person := by rw [← type_of_tells htells, hc]
  have hschema : q.plan.schema ∈ personReader.schemas.toList :=
    hprefix.subset (List.mem_map_of_mem hq)
  obtain ⟨reported, hreported⟩ :
    ∃ text, personReader.queryText .person (firstTwo.upTo 1) = .ok text := ⟨_, rfl⟩
  refine ⟨[c], c, q, reported, hfetch (), List.mem_cons_self, by rw [hc], ?_, hplans q hq, htells,
    hreported, ?_⟩
  · rw [Run.notes, hrun]
    exact List.mem_append_right _ (List.mem_map_of_mem hq)
  · rintro rfl
    rw [← htype, queryText_eq_ok_iff_winners hschema (hplans q hq), hwinners] at hreported
    cases hreported

end Reader

end ContactGraph
