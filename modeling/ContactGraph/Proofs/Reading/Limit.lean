import ContactGraph.Proofs.Query.Ordering
import ContactGraph.Proofs.Query.Partition
import ContactGraph.Proofs.Reading.Bounded
import ContactGraph.Proofs.Result.Rows
import ContactGraph.Proofs.Sort.Stable
import ContactGraph.Reading.Reader

/-!
# Limits without ids

When the store cannot follow a sort order, a fetch that is sorted and limited has no ids to go by.
It then reads as many contacts as the limit allows, type by type and in the order in which they
arrive, and sorts these. So the limit keeps the contacts that arrive first (`gives_fetch_upTo`),
which need not be the first ones of the order (`fetch_upTo_ne_take`).

With a steady service all that is read is a function of the answers (`readTypes`), with a limit or
without one. The two go side by side : `IsCut` relates what has been read so far.
-/

namespace ContactGraph

open Query

/-- The same request for no more than `n` contacts. -/
def Request.upTo (request : Request) (n : Nat) : Request :=
  { request with hint := { request.hint with maxCount := some n } }

/-- Nothing that is wrong with a request cancels it. -/
theorem Rejection.kind_error_ne_canceled (rejection : Rejection) :
    rejection.error.kind ≠ .canceled := by
  cases rejection <;> exact ErrorKind.noConfusion

namespace Reader

variable {σ : Type} {r : Reader} {s : Service σ} {answer : String → Except String Table}
  {request : Request} {limit : Option Nat} {schema : Schema} {schemas : List Schema} {p : Plan}
  {table part : Table} {n : Nat} {ids : List ContactId} {cs ds : List Contact}

/-! ## What answers tell -/

/-- The query for the contacts of a type, and the rows that answer it. -/
def answered (r : Reader) (answer : String → Except String Table) (request : Request)
    (schema : Schema) : Except Error (Plan × Table) :=
  ((plan (r.scope schema) request).mapError Rejection.error).bind fun p =>
    ((answer p.select.text).mapError Error.execution).map fun table => (p, table)

/-- The contacts of a type in the order in which they arrive. -/
def arrivalsOf (r : Reader) (answer : String → Except String Table) (request : Request)
    (schema : Schema) : List ContactId :=
  match r.answered answer request schema with
  | .ok (_, table) => (Result.idsIn table).map (ContactId.mk schema.type)
  | .error _ => []

/-- All contacts in the order in which they arrive, type by type. -/
def arrivals (r : Reader) (answer : String → Except String Table) (request : Request) :
    List ContactId :=
  r.schemas.toList.flatMap (r.arrivalsOf answer request)

/-- The contacts of one type, up to a limit. -/
def readType (r : Reader) (request : Request) (limit : Option Nat) (p : Plan) (table : Table) :
    List Contact :=
  r.arrange p request.sorting (Result.readRows r.frame p limit {} table).contacts

/-- The contacts of several types, added to those there are up to a limit. -/
def readTypes (r : Reader) (answer : String → Except String Table) (request : Request)
    (limit : Option Nat) : List Schema → List Contact → Except Error (List Contact)
  | [], cs => .ok cs
  | schema :: schemas, cs =>
    if remaining limit cs = some 0 then .ok cs
    else
      (r.answered answer request schema).bind fun (p, table) =>
        readTypes r answer request limit schemas
          (Sort.mergeContacts request.sorting cs
            (r.readType request (remaining limit cs) p table))

theorem answered_of_plan (h : plan (r.scope schema) request = .ok p) :
    r.answered answer request schema =
      ((answer p.select.text).mapError Error.execution).map fun table => (p, table) := by
  rw [answered, h]
  rfl

theorem schema_of_answered (h : r.answered answer request schema = .ok (p, table)) :
    p.schema = schema := by
  cases hplan : plan (r.scope schema) request with
  | error rejection =>
    rw [answered, hplan] at h
    cases h
  | ok q =>
    rw [answered_of_plan hplan] at h
    cases hanswer : answer q.select.text with
    | error reason =>
      rw [hanswer] at h
      cases h
    | ok rows =>
      rw [hanswer] at h
      cases h
      exact schema_of_plan hplan

theorem arrivalsOf_eq (h : r.answered answer request schema = .ok (p, table)) :
    r.arrivalsOf answer request schema = (Result.idsIn table).map (ContactId.mk schema.type) := by
  rw [arrivalsOf, h]

/-! ## Steady services -/

theorem yields_fetchType (hs : s.IsSteady answer) (hlive : ∀ st, s.canceled st = false) (r : Reader)
    (request : Request) (limit : Option Nat) (schema : Schema) :
    (r.fetchType s request limit schema).Yields
      ((r.answered answer request schema).map fun (p, table) =>
        r.readType request limit p table) := by
  cases hplan : plan (r.scope schema) request with
  | error rejection =>
    rw [answered, fetchType, hplan]
    exact (Run.yields_ofRejection _).bind_error
  | ok p =>
    rw [answered_of_plan hplan, fetchType, hplan]
    refine (Run.yields_ofRejection (.ok p)).bind_ok ?_
    have hquery := Run.yields_query hs p.select.text
    cases hanswer : answer p.select.text with
    | error reason =>
      rw [hanswer] at hquery
      exact hquery.bind_error
    | ok table =>
      rw [hanswer] at hquery
      refine hquery.bind_ok ((Run.yields_isCanceled hlive).bind_ok ?_)
      exact (Run.yields_ofExcept (.ok _)).bind_ok (Run.yields_pure _)

/-- What is fetched from a steady service is what its answers tell. -/
theorem yields_fetchTypes (hs : s.IsSteady answer)
    (hlive : schemas = [] ∨ ∀ st, s.canceled st = false) (r : Reader) (request : Request)
    (limit : Option Nat) (cs : List Contact) :
    (r.fetchTypes s request limit schemas cs).Yields
      (r.readTypes answer request limit schemas cs) := by
  induction schemas generalizing cs with
  | nil => exact Run.yields_pure cs
  | cons schema schemas ih =>
    have hlive := hlive.resolve_left (List.cons_ne_nil schema schemas)
    have htype := yields_fetchType hs hlive r request (remaining limit cs) schema
    rw [fetchTypes, readTypes]
    refine (Run.yields_checkCanceled hlive).bind_ok ?_
    split
    · exact Run.yields_pure cs
    · cases hanswered : r.answered answer request schema with
      | error e =>
        rw [hanswered] at htype
        exact htype.bind_error
      | ok found =>
        rw [hanswered] at htype
        exact htype.bind_ok (ih (.inr hlive) _)

/-! ## With a limit and without -/

/-- What a fetch with a limit has read, against what one without has, from contacts that arrive in
the order of `ids`. -/
structure IsCut (n : Nat) (ids : List ContactId) (cs ds : List Contact) : Prop where
  /-- Without a limit all contacts are there. -/
  perm : (cs.map (·.id)).Perm ids
  /-- With the limit those are there that arrive first. -/
  perm_take : (ds.map (·.id)).Perm (ids.take n)
  /-- A limit that leaves room for all makes no difference. -/
  eq_of_length_le : ids.length ≤ n → ds = cs

/-- Arranging contacts loses none. -/
theorem perm_id_arrange (r : Reader) (p : Plan) (sorting : List SortOrder) (cs : List Contact) :
    ((r.arrange p sorting cs).map (·.id)).Perm (cs.map (·.id)) := by
  rw [← Computed.map_id_complete r.settings p.details cs, arrange]
  split
  · exact List.Perm.refl _
  · exact Sort.stable_perm.map _

/-- Contacts that are merged add up. -/
theorem perm_id_mergeContacts (sorting : List SortOrder) (cs more : List Contact) :
    ((Sort.mergeContacts sorting cs more).map (·.id)).Perm (cs.map (·.id) ++ more.map (·.id)) := by
  rw [← List.map_append]
  exact (List.merge_perm_append ..).map _

theorem perm_id_readType (request : Request)
    (h : Result.readRows r.frame p limit {} table = Result.told r.frame p part) :
    ((r.readType request limit p table).map (·.id)).Perm
      ((Result.idsIn part).map (ContactId.mk p.schema.type)) := by
  have hids : (Result.told r.frame p part).contacts.map (·.id) =
      (Result.idsIn part).map (ContactId.mk p.schema.type) := Result.map_id_told
  rw [readType, h, ← hids]
  exact perm_id_arrange ..

/-- One more type of contacts keeps a fetch with a limit behind one without. -/
theorem IsCut.merge (h : IsCut n ids cs ds) (r : Reader) (request : Request) (p : Plan)
    (table : Table) :
    IsCut n (ids ++ (Result.idsIn table).map (ContactId.mk p.schema.type))
      (Sort.mergeContacts request.sorting cs (r.readType request none p table))
      (Sort.mergeContacts request.sorting ds
        (r.readType request (remaining (some n) ds) p table)) := by
  obtain ⟨part, -, hpart, hids, hall⟩ := Result.readRows_start r.frame p (n - ds.length) table
  have hlength : ds.length = min n ids.length := by
    rw [← List.length_map (·.id), h.perm_take.length_eq, List.length_take]
  refine ⟨?_, ?_, fun hle => ?_⟩
  · have hmore := perm_id_readType request (Result.readRows_eq_told r.frame p table)
    exact (perm_id_mergeContacts ..).trans (h.perm.append hmore)
  · have hmore := perm_id_readType request hpart
    have hroom : n - ds.length = n - ids.length := by omega
    rw [hids, List.map_take] at hmore
    rw [List.take_append, ← hroom]
    exact (perm_id_mergeContacts ..).trans (h.perm_take.append hmore)
  · rw [List.length_append, List.length_map] at hle
    have heq : ds = cs := h.eq_of_length_le (by omega)
    have hpart' : part = table := hall (by omega)
    rw [← heq, readType, readType, remaining, Option.map_some, hpart, hpart',
      Result.readRows_eq_told]

/-- Nothing more is read when there is no room left. -/
theorem readTypes_full (h : remaining limit cs = some 0) :
    r.readTypes answer request limit schemas cs = .ok cs := by
  cases schemas with
  | nil => rfl
  | cons schema schemas => rw [readTypes, if_pos h]

/-- With the limit reached, going on adds nothing, so that a fetch with a limit takes each type like
one without. -/
theorem readTypes_cons (h : r.answered answer request schema = .ok (p, table)) :
    r.readTypes answer request limit (schema :: schemas) cs =
      r.readTypes answer request limit schemas (Sort.mergeContacts request.sorting cs
        (r.readType request (remaining limit cs) p table)) := by
  rw [readTypes]
  split
  · rename_i hfull
    obtain ⟨part, -, hpart, hids, -⟩ := Result.readRows_start r.frame p 0 table
    -- no rows are read, and merging nothing is stopping here
    have hnone : r.readType request (remaining limit cs) p table = [] := by
      have hperm := perm_id_readType request hpart
      rw [hids, List.take_zero, List.map_nil] at hperm
      rw [hfull]
      exact List.map_eq_nil_iff.mp hperm.eq_nil
    rw [hnone, Sort.mergeContacts, List.merge_right, readTypes_full hfull]
  · rw [h]
    rfl

/-- Where a fetch without a limit succeeds, one with a limit does, and what it reads are the
contacts that arrive first. -/
theorem readTypes_limit (h : IsCut n ids cs ds) {cs' : List Contact}
    (hread : r.readTypes answer request none schemas cs = .ok cs') :
    ∃ ds', r.readTypes answer request (some n) schemas ds = .ok ds' ∧
      IsCut n (ids ++ schemas.flatMap (r.arrivalsOf answer request)) cs' ds' := by
  -- `h` holds of what the types in front have given, and each type keeps it
  induction schemas generalizing ids cs ds with
  | nil =>
    cases hread
    exact ⟨ds, rfl, by rwa [List.flatMap_nil, List.append_nil]⟩
  | cons schema schemas ih =>
    cases hanswered : r.answered answer request schema with
    | error e =>
      rw [readTypes, hanswered] at hread
      cases hread
    | ok found =>
      obtain ⟨p, table⟩ := found
      rw [readTypes_cons hanswered] at hread ⊢
      have hcut := h.merge r request p table
      rw [schema_of_answered hanswered, ← arrivalsOf_eq hanswered] at hcut
      rw [List.flatMap_cons, ← List.append_assoc]
      exact ih hcut hread

/-! ## Whole fetches -/

/-- A limit is no part of a query for contacts. -/
theorem readTypes_upTo (r : Reader) (answer : String → Except String Table) (request : Request)
    (n : Nat) (limit : Option Nat) (schemas : List Schema) (cs : List Contact) :
    r.readTypes answer (request.upTo n) limit schemas cs =
      r.readTypes answer request limit schemas cs := by
  induction schemas generalizing cs with
  | nil => rfl
  | cons schema schemas ih =>
    have hanswered : r.answered answer (request.upTo n) schema = r.answered answer request schema :=
      rfl
    rw [readTypes, readTypes, hanswered]
    simp only [ih]
    rfl

/-- No ids are to be had in an order that the store cannot follow, unless none are asked for. -/
theorem yields_fetchSortedIds (hlive : r.schemas.toList = [] ∨ ∀ st, s.canceled st = false)
    (request : Request)
    (horders : ∀ schema ∈ r.schemas.toList, ∃ o ∈ request.sorting, ¬ o.IsEvaluable schema) :
    (r.schemas.toList = [] ∧ (r.fetchSortedIds s request).Yields (.ok [])) ∨
    ∃ e, e.kind ≠ .canceled ∧ (r.fetchSortedIds s request).Yields (.error e) := by
  rw [fetchSortedIds]
  cases hschemas : r.schemas.toList with
  | nil =>
    have hnone : pickIds request.sorting request.hint.maxCount [] = [] := by
      cases request.hint.maxCount with
      | none => rfl
      | some n =>
        show ([].take n : List (ContactId × List SortKey)).map (·.1) = []
        rw [List.take_nil, List.map_nil]
    refine .inl ⟨rfl, (Run.yields_pure []).bind_ok ?_⟩
    rw [hnone]
    exact Run.yields_pure []
  | cons schema schemas =>
    rw [hschemas] at hlive horders
    -- the first type is refused, so that no other is asked
    have hlive := hlive.resolve_left (List.cons_ne_nil schema schemas)
    obtain ⟨rejection, hrejection⟩ :=
      idSelect_eq_error (s := r.scope schema) (horders schema List.mem_cons_self)
    have hkeyed : (r.fetchKeyedIds s request schema).Yields (.error rejection.error) := by
      rw [fetchKeyedIds, hrejection]
      exact (Run.yields_checkCanceled hlive).bind_ok (Run.yields_ofRejection _).bind_error
    exact .inr ⟨rejection.error, rejection.kind_error_ne_canceled, hkeyed.bind_error.bind_error⟩

/-- Without a limit all contacts are read. -/
theorem fetch_eq_fetchTypes (s : Service σ) (hunlimited : request.hint.maxCount = none) :
    r.fetch s request = r.fetchTypes s request none r.schemas.toList [] := by
  rw [fetch, hunlimited, Option.isSome_none, Bool.false_and, if_neg Bool.false_ne_true,
    fetchDirectly, hunlimited]

/-- With a limit, contacts in an order that the store cannot follow are read up to the limit. -/
theorem yields_fetch_upTo (hs : s.IsSteady answer)
    (hlive : r.schemas.toList = [] ∨ ∀ st, s.canceled st = false) (hsorted : request.sorting ≠ [])
    (horders : ∀ schema ∈ r.schemas.toList, ∃ o ∈ request.sorting, ¬ o.IsEvaluable schema)
    (n : Nat) :
    (r.fetch s (request.upTo n)).Yields
      (r.readTypes answer request (some n) r.schemas.toList []) := by
  have hbounded : ((request.upTo n).hint.maxCount.isSome && !(request.upTo n).sorting.isEmpty) =
      true := by
    simp [Request.upTo, hsorted]
  rw [fetch, if_pos hbounded]
  rcases yields_fetchSortedIds hlive (request.upTo n) horders with ⟨hnone, hids⟩ | ⟨e, he, hids⟩
  · rw [hnone]
    exact hids.outcome.bind_ok (Run.yields_pure [])
  · refine hids.outcome.bind_ok ?_
    dsimp only
    rw [if_neg he, ← readTypes_upTo r answer request n]
    exact yields_fetchTypes hs hlive r (request.upTo n) (some n) []

/-- A fetch that succeeds was not canceled, unless it had nothing to ask for. -/
theorem live_of_fetchTypes (hs : s.IsSteady answer) {st : σ} {cs' : List Contact}
    (h : ((r.fetchTypes s request limit schemas cs).run st).1 = .ok cs') :
    schemas = [] ∨ ∀ st, s.canceled st = false := by
  cases schemas with
  | nil => exact .inl rfl
  | cons schema schemas =>
    refine .inr fun st' => ?_
    cases hcanceled : s.canceled st' with
    | false => rfl
    | true =>
      have hall : ∀ st, s.canceled st = true := fun st => (hs.canceled st st').trans hcanceled
      have hyields : (r.fetchTypes s request limit (schema :: schemas) cs).Yields
          (.error .canceled) := (Run.yields_checkCanceled_of_canceled hall).bind_error
      rw [hyields st] at h
      cases h

/-- A fetch in an order that the store cannot follow gets, when it is limited, the contacts that
arrive first, type by type. It succeeds where a fetch without a limit does, and gives the same when
there is room for all. -/
theorem gives_fetch_upTo (hs : s.IsSteady answer) (hsorted : request.sorting ≠ [])
    (hunlimited : request.hint.maxCount = none)
    (horders : ∀ schema ∈ r.schemas.toList, ∃ o ∈ request.sorting, ¬ o.IsEvaluable schema)
    {st : σ} (hfetch : ((r.fetch s request).run st).1 = .ok cs) (n : Nat) :
    (r.fetch s (request.upTo n)).Gives (IsCut n (r.arrivals answer request) cs) := by
  rw [fetch_eq_fetchTypes s hunlimited] at hfetch
  have hlive := live_of_fetchTypes hs hfetch
  rw [yields_fetchTypes hs hlive r request none [] st] at hfetch
  have hstart : IsCut n [] [] [] :=
    ⟨List.Perm.refl _, by rw [List.take_nil]; exact List.Perm.refl _, fun _ => rfl⟩
  obtain ⟨ds, hread, hcut⟩ := readTypes_limit hstart hfetch
  have hlimited := yields_fetch_upTo hs hlive hsorted horders n
  rw [hread] at hlimited
  exact hlimited.gives hcut

/-- Nicknames with letter case, which the store does not sort by. -/
def byNickname : Request :=
  { sorting := [{ detail := Names.nickname, field := Names.nickname }]
    hint := { details := [Names.nickname], noRelationships := true } }

/-- A reader of the nicknames of persons. -/
def personReader : Reader :=
  { settings := { includeSelf := true }
    schemas := SchemaSet.empty.insert (nicknamed .person "urn:person") }

/-- Two persons, not in the order of their nicknames. -/
def zedAndAmy : Table := [
  [none, some "1", none, none, some "zed"], [none, some "2", none, none, some "amy"]]

/-- A service that answers every query with the same rows. -/
def constantService (table : Table) : Service Unit :=
  { select := fun _ st => (.ok table, st)
    resolve := fun _ st => (.ok [], st)
    canceled := fun _ => false }

theorem isSteady_constantService (table : Table) :
    (constantService table).IsSteady fun _ => .ok table :=
  ⟨fun _ _ => rfl, fun _ _ => rfl⟩

theorem not_isEvaluable_byNickname : ∀ schema ∈ personReader.schemas.toList,
    ∃ o ∈ byNickname.sorting, ¬ o.IsEvaluable schema := fun _ _ =>
  ⟨_, List.mem_singleton_self _, fun h => Bool.false_ne_true h.1⟩

/-- What is read of the two persons : both in the order of their nicknames, or the one that arrives
first. -/
theorem exists_readTypes_zedAndAmy : ∃ p,
    (∀ limit, personReader.readTypes (fun _ => .ok zedAndAmy) byNickname limit
      personReader.schemas.toList [] = .ok (personReader.readType byNickname limit p zedAndAmy)) ∧
    (personReader.readType byNickname none p zedAndAmy).map (·.localId) = [2, 1] ∧
    (personReader.readType byNickname (some 1) p zedAndAmy).map (·.localId) = [1] := by
  obtain ⟨p, hp, hall, hone⟩ : ∃ p,
      personReader.answered (fun _ => .ok zedAndAmy) byNickname (nicknamed .person "urn:person") =
        .ok (p, zedAndAmy) ∧
      (personReader.readType byNickname none p zedAndAmy).map (·.localId) = [2, 1] ∧
      (personReader.readType byNickname (some 1) p zedAndAmy).map (·.localId) = [1] :=
    ⟨_, rfl, by decide +kernel, by decide +kernel⟩
  refine ⟨p, fun limit => ?_, hall, hone⟩
  have hlimit : remaining limit [] = limit := by
    cases limit <;> rfl
  have hschemas : personReader.schemas.toList = [nicknamed .person "urn:person"] := rfl
  rw [hschemas, readTypes_cons hp, hlimit, Sort.mergeContacts, List.nil_merge]
  rfl

theorem run_fetch_zedAndAmy :
    ((personReader.fetch (constantService zedAndAmy) byNickname).run ()).1 =
      personReader.readTypes (fun _ => .ok zedAndAmy) byNickname none personReader.schemas.toList
        [] := by
  rw [fetch_eq_fetchTypes _ rfl]
  exact yields_fetchTypes (isSteady_constantService zedAndAmy) (.inr fun _ => rfl) _ _ none [] ()

/-- With room for both persons the limit makes no difference. -/
theorem gives_fetch_upTo_zedAndAmy :
    ∃ cs, ((personReader.fetch (constantService zedAndAmy) byNickname).run ()).1 = .ok cs ∧
      (personReader.fetch (constantService zedAndAmy) (byNickname.upTo 2)).Gives (· = cs) := by
  obtain ⟨p, hread, -⟩ := exists_readTypes_zedAndAmy
  have hfetch := run_fetch_zedAndAmy.trans (hread none)
  have hroom : (personReader.arrivals (fun _ => .ok zedAndAmy) byNickname).length ≤ 2 := by
    decide +kernel
  have hlimited := gives_fetch_upTo (isSteady_constantService zedAndAmy) (List.cons_ne_nil _ _) rfl
    not_isEvaluable_byNickname hfetch 2
  exact ⟨_, hfetch, hlimited.mono fun ds hcut => hcut.eq_of_length_le hroom⟩

/-- Amy comes first, but with room for one person only Zed is there, who arrives first. -/
theorem fetch_upTo_ne_take :
    (∀ schema ∈ personReader.schemas.toList, ∃ o ∈ byNickname.sorting, ¬ o.IsEvaluable schema) ∧
    (constantService zedAndAmy).IsSteady (fun _ => .ok zedAndAmy) ∧
    ∃ cs ds, ((personReader.fetch (constantService zedAndAmy) byNickname).run ()).1 = .ok cs ∧
      ((personReader.fetch (constantService zedAndAmy) (byNickname.upTo 1)).run ()).1 = .ok ds ∧
      (cs.take 1).map (·.localId) = [2] ∧ ds.map (·.localId) = [1] := by
  obtain ⟨p, hread, hall, hone⟩ := exists_readTypes_zedAndAmy
  have hlimited := yields_fetch_upTo (isSteady_constantService zedAndAmy) (.inr fun _ => rfl)
    (List.cons_ne_nil _ _) not_isEvaluable_byNickname 1 ()
  refine ⟨not_isEvaluable_byNickname, isSteady_constantService zedAndAmy, _, _,
    run_fetch_zedAndAmy.trans (hread none), hlimited.trans (hread (some 1)), ?_, hone⟩
  rw [List.map_take, hall, List.take_succ_cons, List.take_zero]

end Reader

end ContactGraph
