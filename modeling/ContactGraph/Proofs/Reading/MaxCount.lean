import ContactGraph.Proofs.Reading.Limit
import Mathlib.Data.List.Perm.Subperm

/-!
# How many contacts come

A request for at most `n` contacts, against any service : rows may be missing, may tell of contacts
that nobody asked for, and calls may fail or be canceled. Reading type by type never goes beyond the
limit (`ends_fetchTypes_upTo`), and neither does a fetch of ids. A fetch that goes by ids has no
limit of its own : it reads each contact once (`ends_fetchTypes_nodup`), so it keeps to the limit as
long as no other contacts come than those with the ids (`length_le_of_maxCount`). Ids are looked up
by their numbers, and so a person and a group with the same number both come for one id
(`length_fetch_shared`).
-/

namespace ContactGraph

open Query

namespace Reader

variable {σ : Type} {r : Reader} {s : Service σ} {request : Request} {limit : Option Nat}
  {schema : Schema} {schemas : List Schema} {n : Nat} {cs : List Contact} {st : σ}

/-! ## One type -/

/-- What can be said of contacts that any service gives for a schema. -/
structure AreRead (schema : Schema) (limit : Option Nat) (cs : List Contact) : Prop where
  /-- No contact is there twice. -/
  nodup : (cs.map (·.id)).Nodup
  /-- The contacts are of the type. -/
  type_eq : ∀ i ∈ cs.map (·.id), i.type = schema.type
  /-- There are no more than the limit allows. -/
  length_le : ∀ n, limit = some n → cs.length ≤ n

theorem ends_fetchType (r : Reader) (s : Service σ) (request : Request) (limit : Option Nat)
    (schema : Schema) :
    (r.fetchType s request limit schema).Ends (AreRead schema limit) fun _ => True := by
  refine (Run.ends_ofRejection _).bind (fun _ _ => trivial) fun p hp => ?_
  refine (Run.ends_query s _).bind (fun _ _ => trivial) fun table _ => ?_
  refine (Run.ends_isCanceled s).bind (fun _ _ => trivial) fun canceled _ => ?_
  refine (Run.ends_ofExcept _).bind (fun _ _ => trivial) fun cs hcs => ?_
  have hperm := perm_id_arrange r p request.sorting cs
  obtain ⟨part, -, htold⟩ := Result.exists_told_of_contacts hcs
  refine Run.ends_pure ⟨?_, fun i hi => ?_, fun n hlimit => ?_⟩
  · rw [hperm.nodup_iff, htold]
    exact Result.nodup_told
  · rw [hperm.mem_iff, htold, Result.mem_told_iff, schema_of_plan hp] at hi
    exact hi.1
  · have hlength := hperm.length_eq
    rw [List.length_map, List.length_map] at hlength
    rw [hlimit] at hcs
    rw [hlength]
    exact Result.length_le_of_contacts hcs

theorem length_mergeContacts (sorting : List SortOrder) (cs more : List Contact) :
    (Sort.mergeContacts sorting cs more).length = cs.length + more.length := by
  simpa using (perm_id_mergeContacts sorting cs more).length_eq

/-! ## All types -/

/-- With a limit, no more contacts are read than it allows. -/
theorem ends_fetchTypes_upTo (hcs : cs.length ≤ n) :
    (r.fetchTypes s request (some n) schemas cs).Ends (fun found => found.length ≤ n)
      fun _ => True := by
  induction schemas generalizing cs with
  | nil => exact Run.ends_pure hcs
  | cons schema schemas ih =>
    rw [fetchTypes]
    refine (Run.ends_checkCanceled s).bind (fun _ _ => trivial) fun _ _ => ?_
    split
    · exact Run.ends_pure hcs
    · refine (ends_fetchType r s request _ schema).bind (fun _ h => h) fun more hmore => ih ?_
      have hlength : more.length ≤ n - cs.length := hmore.length_le _ rfl
      rw [length_mergeContacts]
      omega

/-- Contacts of several types are different. -/
theorem ends_fetchTypes_nodup (htypes : schemas.Pairwise fun a b => a.type ≠ b.type)
    (hcs : (cs.map (·.id)).Nodup)
    (hapart : ∀ i ∈ cs.map (·.id), ∀ schema ∈ schemas, i.type ≠ schema.type) :
    (r.fetchTypes s request limit schemas cs).Ends (fun found => (found.map (·.id)).Nodup)
      fun _ => True := by
  induction schemas generalizing cs with
  | nil => exact Run.ends_pure hcs
  | cons schema schemas ih =>
    obtain ⟨hne, htypes⟩ := List.pairwise_cons.mp htypes
    rw [fetchTypes]
    refine (Run.ends_checkCanceled s).bind (fun _ _ => trivial) fun _ _ => ?_
    split
    · exact Run.ends_pure hcs
    · have hmore := ends_fetchType r s request (remaining limit cs) schema
      refine hmore.bind (fun _ h => h) fun more hmore => ih htypes ?_ ?_
      all_goals have hperm := perm_id_mergeContacts request.sorting cs more
      · refine hperm.nodup_iff.mpr (List.nodup_append.mpr ⟨hcs, hmore.nodup, ?_⟩)
        rintro i hi _ hi' rfl
        exact hapart i hi schema List.mem_cons_self (hmore.type_eq i hi')
      · intro i hi schema' hschema'
        rcases List.mem_append.mp (hperm.mem_iff.mp hi) with hi | hi
        · exact hapart i hi schema' (List.mem_cons_of_mem schema hschema')
        · rw [hmore.type_eq i hi]
          exact hne schema' hschema'

theorem ends_fetchDirectly (hlimit : request.hint.maxCount = some n) :
    (r.fetchDirectly s request).Ends (fun cs => cs.length ≤ n) fun _ => True := by
  rw [fetchDirectly, hlimit]
  exact ends_fetchTypes_upTo (Nat.zero_le n)

/-- Contacts that are fetched by their ids are different. -/
theorem ends_fetchByIds (r : Reader) (s : Service σ) (hint : FetchHint) (ids : List LocalId) :
    (r.fetchByIds s hint ids).Ends (fun cs => (cs.map (·.id)).Nodup) fun _ => True := by
  have hnone : (([] : List Contact).map (·.id)).Nodup := List.nodup_nil
  refine (ends_fetchTypes_nodup (pairwise_type_ne r.schemas) hnone (by simp)).bind (fun _ h => h)
    fun cs hcs => Run.ends_pure ?_
  exact (Sort.stable_perm.map _).nodup_iff.mpr hcs

/-! ## Ids -/

theorem length_pickIds_le (sorting : List SortOrder) (n : Nat)
    (entries : List (ContactId × List SortKey)) :
    (pickIds sorting (some n) entries).length ≤ n := by
  rw [pickIds, takeLimit, List.length_map]
  exact List.length_take_le n _

/-- The query for the ids of a type is refused, or it is made. -/
theorem ends_fetchKeyedIds (r : Reader) (s : Service σ) (request : Request) (schema : Schema) :
    (r.fetchKeyedIds s request schema).Ends
      (fun _ => ∃ select, idSelect (r.scope schema) request = .ok select)
      fun e => e.kind = .notSupported →
        ∃ rejection, idSelect (r.scope schema) request = .error rejection := by
  refine (Run.ends_checkCanceled s).bind ?_ fun _ _ => ?_
  · rintro _ rfl hkind
    cases hkind
  refine (Run.ends_ofRejection _).bind ?_ fun select hselect => ?_
  · rintro _ ⟨rejection, hrejection, rfl⟩ -
    exact ⟨rejection, hrejection⟩
  refine (Run.ends_query s _).bind ?_ fun table _ => ?_
  · rintro _ ⟨reason, rfl⟩ hkind
    cases hkind
  exact Run.ends_pure ⟨select, hselect⟩

/-- Ids cannot be had only where the query for the ids of a type is refused, and then never. -/
theorem ends_fetchAllKeyedIds (r : Reader) (s : Service σ) (request : Request)
    (schemas : List Schema) :
    (r.fetchAllKeyedIds s request schemas).Ends
      (fun _ => ∀ schema ∈ schemas, ∃ select, idSelect (r.scope schema) request = .ok select)
      fun e => e.kind = .notSupported → ∃ schema ∈ schemas,
        ∃ rejection, idSelect (r.scope schema) request = .error rejection := by
  induction schemas with
  | nil => exact Run.ends_pure (by simp)
  | cons schema schemas ih =>
    refine (ends_fetchKeyedIds r s request schema).bind ?_ fun here hhere => ?_
    · intro e he hkind
      exact ⟨schema, List.mem_cons_self, he hkind⟩
    refine ih.bind ?_ fun there hthere => ?_
    · intro e he hkind
      obtain ⟨schema', hschema', hrejection⟩ := he hkind
      exact ⟨schema', List.mem_cons_of_mem schema hschema', hrejection⟩
    exact Run.ends_pure (List.forall_mem_cons.mpr ⟨hhere, hthere⟩)

/-- No more ids are fetched than the limit allows, and none where the query for the ids of a type is
refused. -/
theorem ends_fetchSortedIds (r : Reader) (s : Service σ) (request : Request) :
    (r.fetchSortedIds s request).Ends
      (fun ids => (∀ n, request.hint.maxCount = some n → ids.length ≤ n) ∧
        ∀ schema ∈ r.schemas.toList, ∃ select, idSelect (r.scope schema) request = .ok select)
      fun e => e.kind = .notSupported → ∃ schema ∈ r.schemas.toList,
        ∃ rejection, idSelect (r.scope schema) request = .error rejection := by
  refine (ends_fetchAllKeyedIds r s request r.schemas.toList).bind (fun _ h => h)
    fun entries hselect => ?_
  refine Run.ends_pure ⟨fun n hlimit => ?_, hselect⟩
  rw [hlimit]
  exact length_pickIds_le request.sorting n entries

/-- Where the store cannot follow an order, it gives no ids for the narrowed request either. -/
theorem not_ok_fetchSortedIds_narrowed {e : Error}
    (h : ((r.fetchSortedIds s request).run st).1 = .error e) (hkind : e.kind = .notSupported)
    (st' : σ) (ids : List ContactId) :
    ((r.fetchSortedIds s (narrowed request)).run st').1 ≠ .ok ids := by
  intro hok
  obtain ⟨schema, hschema, rejection, hrejection⟩ :=
    (ends_fetchSortedIds r s request).error h hkind
  obtain ⟨-, hselects⟩ := (ends_fetchSortedIds r s (narrowed request)).ok hok
  obtain ⟨select, hselect⟩ := hselects schema hschema
  -- the filter, the order and the limit of a narrowed request are those of the request
  have hsame : idSelect (r.scope schema) (narrowed request) = idSelect (r.scope schema) request :=
    rfl
  rw [hsame, hrejection] at hselect
  cases hselect

/-! ## Whole fetches -/

/-- A fetch for at most `n` contacts gives no more than that, if no other contacts come than those
whose ids were fetched first. -/
theorem length_le_of_fetch (hlimit : request.hint.maxCount = some n)
    (hcs : ((r.fetch s request).run st).1 = .ok cs)
    (hasked : ∀ ids, request.sorting ≠ [] → ((r.fetchSortedIds s request).run st).1 = .ok ids →
      ∀ c ∈ cs, c.id ∈ ids) : cs.length ≤ n := by
  rw [fetch] at hcs
  split at hcs
  · rename_i hbounded
    rw [Run.run_outcome_bind] at hcs
    have hsorted : request.sorting ≠ [] := by
      simp_all
    cases hids : ((r.fetchSortedIds s request).run st).1 with
    | ok ids =>
      have hle := ((ends_fetchSortedIds r s request).ok hids).1 n hlimit
      rw [hids] at hcs
      cases ids with
      | nil =>
        cases hcs
        exact Nat.zero_le n
      | cons id ids =>
        have hnodup := (ends_fetchByIds r s request.hint _).ok hcs
        have hsubset : cs.map (·.id) ⊆ id :: ids := by
          intro i hi
          obtain ⟨c, hc, rfl⟩ := List.mem_map.mp hi
          exact hasked _ hsorted hids c hc
        have hlength := (List.subperm_of_subset hnodup hsubset).length_le
        rw [List.length_map] at hlength
        omega
    | error e =>
      rw [hids] at hcs
      dsimp only at hcs
      split at hcs
      · cases hcs
      · exact (ends_fetchDirectly hlimit).ok hcs
  · exact (ends_fetchDirectly hlimit).ok hcs

/-- Contacts that are fetched to be sorted, since no ids can be had, keep to the limit. -/
theorem ends_fetch_narrowed (hlimit : request.hint.maxCount = some n) {e : Error}
    (h : ((r.fetchSortedIds s request).run st).1 = .error e) (hkind : e.kind = .notSupported) :
    (r.fetch s (narrowed request)).Ends (fun cs => cs.length ≤ n) fun _ => True := by
  have hnarrowed : (narrowed request).hint.maxCount = some n := hlimit
  refine ⟨fun hcs => length_le_of_fetch hnarrowed hcs fun ids _ hids => ?_, fun _ => trivial⟩
  exact absurd hids (not_ok_fetchSortedIds_narrowed h hkind _ ids)

theorem length_le_of_fetchIds (hlimit : request.hint.maxCount = some n) {ids : List ContactId}
    (hids : ((r.fetchIds s request).run st).1 = .ok ids) : ids.length ≤ n := by
  rw [fetchIds, Run.run_outcome_bind] at hids
  cases hsorted : ((r.fetchSortedIds s request).run st).1 with
  | ok found =>
    rw [hsorted] at hids
    cases hids
    exact ((ends_fetchSortedIds r s request).ok hsorted).1 n hlimit
  | error e =>
    rw [hsorted] at hids
    dsimp only at hids
    split at hids
    · rename_i hkind
      simp only [Bool.and_eq_true, decide_eq_true_eq] at hkind
      have hfetch := (ends_fetch_narrowed hlimit hsorted hkind.1).bind (fun _ h => h)
        (R := fun ids : List ContactId => ids.length ≤ n) fun cs hcs =>
          Run.ends_pure (a := cs.map (·.id)) (by rwa [List.length_map])
      exact hfetch.ok hids
    · cases hids

/-- Whatever a service does, a request for at most `n` contacts gets no more ids than that, and no
more contacts either, unless contacts come besides those whose ids were fetched first. -/
theorem length_le_of_maxCount (hlimit : request.hint.maxCount = some n) (st : σ) :
    (∀ cs, ((r.fetch s request).run st).1 = .ok cs →
      (∀ ids, request.sorting ≠ [] → ((r.fetchSortedIds s request).run st).1 = .ok ids →
        ∀ c ∈ cs, c.id ∈ ids) → cs.length ≤ n) ∧
    ∀ ids, ((r.fetchIds s request).run st).1 = .ok ids → ids.length ≤ n :=
  ⟨fun _ => length_le_of_fetch hlimit, fun _ => length_le_of_fetchIds hlimit⟩

/-! ## A shared number -/

/-- A sorted fetch with a limit from a steady service goes by the ids that it fetches first. -/
theorem yields_fetch_byIds {answer : String → Except String Table} (hs : s.IsSteady answer)
    (hlive : ∀ st, s.canceled st = false)
    (hbounded : (request.hint.maxCount.isSome && !request.sorting.isEmpty) = true)
    {id : ContactId} {ids : List ContactId}
    (hids : (r.fetchSortedIds s request).Yields (.ok (id :: ids)))
    (hread : r.readTypes answer
      { filter := .ids ((id :: ids).map (·.number)), hint := request.hint } none r.schemas.toList
      [] = .ok cs) :
    (r.fetch s request).Yields (.ok (inOrder ((id :: ids).map (·.number)) cs)) := by
  have htypes : (r.fetchTypes s
      { filter := .ids ((id :: ids).map (·.number)), hint := request.hint } none r.schemas.toList
      []).Yields (.ok cs) :=
    hread ▸ yields_fetchTypes hs (.inr hlive) r _ none []
  rw [fetch, if_pos hbounded]
  exact hids.outcome.bind_ok (htypes.bind_ok (Run.yields_pure _))

/-- The row of somebody who is both a person and a group. -/
def sharedRow : Table := [[none, some "1", none, none, some "amy"]]

/-- A request for the contact with the number that is shared. -/
def byNumber : Request :=
  { filter := .ids [1], hint := (firstTwo.upTo 1).hint }

/-- What is read of persons alone. -/
theorem exists_fetch_person_shared : ∃ cs,
    (personReader.fetch (constantService sharedRow) (firstTwo.upTo 1)).Yields (.ok cs) ∧
      cs.map (·.id) = [⟨.person, 1⟩] := by
  obtain ⟨p, hp, hid⟩ : ∃ p,
      personReader.answered (fun _ => .ok sharedRow) byNumber (nicknamed .person "urn:person") =
        .ok (p, sharedRow) ∧
      (inOrder [1] (personReader.readType byNumber none p sharedRow)).map (·.id) =
        [⟨.person, 1⟩] :=
    ⟨_, rfl, by decide +kernel⟩
  have hids : (personReader.fetchSortedIds (constantService sharedRow) (firstTwo.upTo 1)).Yields
      (.ok [⟨.person, 1⟩]) := fun _ => rfl
  have hread : personReader.readTypes (fun _ => .ok sharedRow) byNumber none
      personReader.schemas.toList [] = .ok (personReader.readType byNumber none p sharedRow) := by
    have hschemas : personReader.schemas.toList = [nicknamed .person "urn:person"] := rfl
    rw [hschemas, readTypes_cons hp, Sort.mergeContacts, List.nil_merge]
    rfl
  exact ⟨_, yields_fetch_byIds (isSteady_constantService sharedRow) (fun _ => rfl) rfl hids hread,
    hid⟩

/-- With one type of contacts, one comes for one id. -/
theorem length_le_of_maxCount_person :
    ∃ cs, ((personReader.fetch (constantService sharedRow) (firstTwo.upTo 1)).run ()).1 = .ok cs ∧
      cs.length ≤ 1 ∧
      ∃ ids, ((personReader.fetchIds (constantService sharedRow) (firstTwo.upTo 1)).run ()).1 =
        .ok ids ∧ ids.length ≤ 1 := by
  obtain ⟨cs, hfetch, hid⟩ := exists_fetch_person_shared
  have hlimit : (firstTwo.upTo 1).hint.maxCount = some 1 := rfl
  have hbound :=
    length_le_of_maxCount (r := personReader) (s := constantService sharedRow) hlimit ()
  refine ⟨cs, hfetch (), hbound.1 cs (hfetch ()) ?_, [⟨.person, 1⟩], rfl, hbound.2 _ rfl⟩
  intro ids _ hids c hc
  have hids' : ids = [⟨.person, 1⟩] := (Except.ok.inj hids).symm
  rw [hids', ← hid]
  exact List.mem_map_of_mem hc

/-- One id is asked for, and the person with its number comes with the group. -/
theorem length_fetch_shared : (firstTwo.upTo 1).hint.maxCount = some 1 ∧
    ∃ cs, ((nicknameReader.fetch (constantService sharedRow) (firstTwo.upTo 1)).run ()).1 =
      .ok cs ∧ cs.map (·.id) = [⟨.person, 1⟩, ⟨.group, 1⟩] := by
  obtain ⟨p, q, hp, hq, hid⟩ : ∃ p q,
      nicknameReader.answered (fun _ => .ok sharedRow) byNumber (nicknamed .person "urn:person") =
        .ok (p, sharedRow) ∧
      nicknameReader.answered (fun _ => .ok sharedRow) byNumber (nicknamed .group "urn:group") =
        .ok (q, sharedRow) ∧
      (inOrder [1] (nicknameReader.readType byNumber none p sharedRow ++
        nicknameReader.readType byNumber none q sharedRow)).map (·.id) =
          [⟨.person, 1⟩, ⟨.group, 1⟩] :=
    ⟨_, _, rfl, rfl, by decide +kernel⟩
  have hids : (nicknameReader.fetchSortedIds (constantService sharedRow) (firstTwo.upTo 1)).Yields
      (.ok [⟨.person, 1⟩]) := fun _ => rfl
  have hread : nicknameReader.readTypes (fun _ => .ok sharedRow) byNumber none
      nicknameReader.schemas.toList [] =
        .ok (nicknameReader.readType byNumber none p sharedRow ++
          nicknameReader.readType byNumber none q sharedRow) := by
    have hschemas : nicknameReader.schemas.toList =
      [nicknamed .person "urn:person", nicknamed .group "urn:group"] := rfl
    have hmerge (cs more : List Contact) :
        Sort.mergeContacts byNumber.sorting cs more = cs ++ more := Sort.mergeContacts_nil cs more
    rw [hschemas, readTypes_cons hp, readTypes_cons hq, hmerge, hmerge]
    rfl
  exact ⟨rfl, _, yields_fetch_byIds (isSteady_constantService sharedRow) (fun _ => rfl) rfl hids
    hread (), hid⟩

end Reader

end ContactGraph
