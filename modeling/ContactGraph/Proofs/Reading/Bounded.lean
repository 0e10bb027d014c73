import ContactGraph.Proofs.Query.Ordering
import ContactGraph.Proofs.Reading.Run
import ContactGraph.Proofs.Result.Rows
import ContactGraph.Proofs.Sort.Contacts
import ContactGraph.Reading.Reader

/-!
# Sorted fetches with a limit

A fetch that is sorted and limited asks each type for the ids of its first contacts, and then for
the contacts that win. `Reader.firstIds` are the first ids of all contacts, sorted stably by their
keys. `gives_fetch_firstIds` : whatever order the store gives the winners in, the contacts come as
`firstIds` says, so nothing is lost by limiting each type on its own. Up to the ids this is a matter
of merging (`pickIds_take`); behind them, contacts with the ids asked for, each once, are put back
into the order of their ids (`map_id_inOrder`).
-/

namespace ContactGraph

open Query

/-! ## What a store holds -/

namespace Reader

variable {σ : Type} {r : Reader} {s : Service σ} {request : Request} {rows : Schema → Table}
  {n : Nat}

/-- The ids and sort keys of all contacts, type by type. -/
def entries (r : Reader) (request : Request) (rows : Schema → Table) :
    List (ContactId × List SortKey) :=
  (r.schemas.toList.map fun schema => keyedIds schema request.sorting (rows schema)).flatten

/-- The ids of the first `n` of all contacts, sorted stably by their keys. -/
def firstIds (r : Reader) (request : Request) (rows : Schema → Table) (n : Nat) : List ContactId :=
  ((Sort.stableBy (fun a b => SortKey.compareAll request.sorting a.2 b.2)
    (r.entries request rows)).take n).map (·.1)

/-- What a store holds of each type of contact : rows of ids and sort keys, in the order of the keys
and with no number twice. -/
structure IsCatalogue (r : Reader) (request : Request) (rows : Schema → Table) : Prop where
  /-- Every row has an id. -/
  numbered : ∀ schema ∈ r.schemas.toList, ∀ row ∈ rows schema, (row.id? idColumn).isSome
  /-- The rows of a type are in order. -/
  ordered : ∀ schema ∈ r.schemas.toList,
    (keyedIds schema request.sorting (rows schema)).Pairwise fun a b =>
      SortKey.compareAll request.sorting a.2 b.2 ≠ .gt
  /-- No number is there twice, be it in one type or in two. -/
  distinct : ((r.entries request rows).map (·.1.number)).Nodup

/-- A service that holds the rows : to the query for ids of a type it answers with the first rows,
and to the query for the winners of a type with rows for just those of them that it has, in any
order. -/
structure Serves (r : Reader) (s : Service σ) (request : Request) (rows : Schema → Table)
    (n : Nat) : Prop where
  /-- The request is not canceled. -/
  uncanceled : ∀ st, s.canceled st = false
  /-- The answer to a query for ids. -/
  ids : ∀ schema ∈ r.schemas.toList, ∀ select, idSelect (r.scope schema) request = .ok select →
    ∀ st, (s.select select.text st).1 = .ok ((rows schema).take n)
  /-- The answer to a query for the winners. -/
  contacts : ∀ schema ∈ r.schemas.toList, ∀ p,
    plan (r.scope schema)
      { filter := .ids ((r.firstIds request rows n).map (·.number)), sorting := []
        hint := request.hint } = .ok p →
    ∀ st, ∃ table, (s.select p.select.text st).1 = .ok table ∧ ∀ id,
      (∃ row ∈ table, row.id? idColumn = some id) ↔
        id ∈ (r.firstIds request rows n).map (·.number) ∧
          ∃ row ∈ rows schema, row.id? idColumn = some id

/-- A service that answers the query for ids of each type, with rows of its own. -/
structure AnswersIds (r : Reader) (s : Service σ) (request : Request) (tables : Schema → Table) :
    Prop where
  /-- The request is not canceled. -/
  uncanceled : ∀ st, s.canceled st = false
  /-- The answer to a query. -/
  answer : ∀ schema ∈ r.schemas.toList, ∀ select,
    idSelect (r.scope schema) request = .ok select →
    ∀ st, (s.select select.text st).1 = .ok (tables schema)

theorem Serves.answersIds (hs : r.Serves s request rows n) :
    r.AnswersIds s request fun schema => (rows schema).take n :=
  ⟨hs.uncanceled, hs.ids⟩

/-! ## Ids -/

theorem length_of_mem_keyedIds {schema : Schema} {sorting : List SortOrder} {table : Table}
    {entry : ContactId × List SortKey} (h : entry ∈ keyedIds schema sorting table) :
    entry.2.length = sorting.length := by
  obtain ⟨row, -, hrow⟩ := List.mem_filterMap.mp h
  obtain ⟨id, -, rfl⟩ := Option.map_eq_some_iff.mp hrow
  simp

theorem mem_map_keyedIds_iff {schema : Schema} {sorting : List SortOrder} {table : Table}
    {i : ContactId} : i ∈ (keyedIds schema sorting table).map (·.1) ↔
      i.type = schema.type ∧ ∃ row ∈ table, row.id? idColumn = some i.number := by
  simp only [keyedIds, List.mem_map, List.mem_filterMap, Option.map_eq_some_iff]
  constructor
  · rintro ⟨_, ⟨row, hrow, id, hid, rfl⟩, rfl⟩
    exact ⟨rfl, row, hrow, hid⟩
  · rintro ⟨htype, row, hrow, hid⟩
    exact ⟨_, ⟨row, hrow, _, hid, rfl⟩, by rw [← htype]⟩

/-- With an id in every row, the first rows have the first ids. -/
theorem keyedIds_take {schema : Schema} {sorting : List SortOrder} {table : Table}
    (h : ∀ row ∈ table, (row.id? idColumn).isSome) (n : Nat) :
    keyedIds schema sorting (table.take n) = (keyedIds schema sorting table).take n := by
  induction table generalizing n with
  | nil => simp [keyedIds]
  | cons row table ih =>
    cases n with
    | zero => simp [keyedIds]
    | succ n =>
      rw [List.forall_mem_cons] at h
      obtain ⟨id, hid⟩ := Option.isSome_iff_exists.mp h.1
      have ih := ih h.2 n
      unfold keyedIds at ih ⊢
      rw [List.take_succ_cons, List.filterMap_cons, List.filterMap_cons, hid, Option.map_some, ih]
      rfl

/-- The winners among the first ids of each type are the winners among all ids. -/
theorem pickIds_take (hrows : r.IsCatalogue request rows) (n : Nat) :
    pickIds request.sorting (some n)
      (r.schemas.toList.map fun schema =>
        keyedIds schema request.sorting ((rows schema).take n)).flatten =
      r.firstIds request rows n := by
  have htake : (r.schemas.toList.map fun schema =>
      keyedIds schema request.sorting ((rows schema).take n)) =
      (r.schemas.toList.map fun schema =>
        keyedIds schema request.sorting (rows schema)).map (List.take n) := by
    rw [List.map_map]
    exact List.map_congr_left fun schema hschema => keyedIds_take (hrows.numbered schema hschema) n
  rw [pickIds, takeLimit, firstIds, entries, htake]
  refine congrArg (List.map (·.1)) (Sort.take_stable_flatten
    (SortKey.weakOrderOn_compareAll request.sorting) ?_ ?_ n)
  · rw [List.forall_mem_map]
    exact fun schema _ entry hentry => length_of_mem_keyedIds hentry
  · rw [List.forall_mem_map]
    intro schema hschema
    refine (hrows.ordered schema hschema).imp fun {a b} hab => ?_
    rw [(SortKey.preorderOn_compareAll _).isLE_iff, Ordering.isLE_iff_ne_gt]
    exact hab

theorem gives_fetchKeyedIds (hs : r.AnswersIds s request rows) {schema : Schema}
    (hschema : schema ∈ r.schemas.toList)
    (hselect : ∃ select, idSelect (r.scope schema) request = .ok select) :
    (r.fetchKeyedIds s request schema).Gives
      fun entries => entries = keyedIds schema request.sorting (rows schema) := by
  obtain ⟨select, hselect⟩ := hselect
  refine (Run.gives_checkCanceled hs.uncanceled).bind fun _ _ => ?_
  refine (Run.gives_ofRejection (Q := fun q => q = select) hselect rfl).bind ?_
  rintro _ rfl
  refine (Run.gives_query (Q := fun table => table = rows schema) fun st =>
    ⟨_, hs.answer schema hschema _ hselect st, rfl⟩).bind ?_
  rintro _ rfl
  exact Run.gives_pure rfl

theorem gives_fetchAllKeyedIds (hs : r.AnswersIds s request rows)
    (hselect : ∀ schema ∈ r.schemas.toList,
      ∃ select, idSelect (r.scope schema) request = .ok select)
    {schemas : List Schema} (hschemas : ∀ schema ∈ schemas, schema ∈ r.schemas.toList) :
    (r.fetchAllKeyedIds s request schemas).Gives fun entries => entries =
      (schemas.map fun schema => keyedIds schema request.sorting (rows schema)).flatten := by
  induction schemas with
  | nil => exact Run.gives_pure rfl
  | cons schema schemas ih =>
    rw [List.forall_mem_cons] at hschemas
    refine (gives_fetchKeyedIds hs hschemas.1 (hselect schema hschemas.1)).bind ?_
    rintro _ rfl
    refine (ih hschemas.2).bind ?_
    rintro _ rfl
    exact Run.gives_pure rfl

/-- The ids that a sorted fetch gives are picked from the answers for all types. -/
theorem gives_fetchSortedIds (hs : r.AnswersIds s request rows)
    (hselect : ∀ schema ∈ r.schemas.toList,
      ∃ select, idSelect (r.scope schema) request = .ok select) :
    (r.fetchSortedIds s request).Gives fun ids =>
      ids = pickIds request.sorting request.hint.maxCount (r.entries request rows) := by
  refine (gives_fetchAllKeyedIds hs hselect fun _ h => h).bind ?_
  rintro _ rfl
  exact Run.gives_pure rfl

/-- The ids that a sorted fetch with a limit asks for are the first of all. -/
theorem gives_fetchSortedIds_firstIds (hrows : r.IsCatalogue request rows)
    (hs : r.Serves s request rows n) (hlimit : request.hint.maxCount = some n)
    (hselect : ∀ schema ∈ r.schemas.toList,
      ∃ select, idSelect (r.scope schema) request = .ok select) :
    (r.fetchSortedIds s request).Gives fun ids => ids = r.firstIds request rows n := by
  refine (gives_fetchSortedIds hs.answersIds hselect).mono fun ids hids => ?_
  rw [hids, hlimit, entries, pickIds_take hrows]

/-! ## Contacts of ids -/

/-- Contacts of a type with just the ids that are both asked for and there, each once. -/
structure AreOf (request : Request) (rows : Schema → Table) (ids : List LocalId) (schema : Schema)
    (cs : List Contact) : Prop where
  /-- No contact is there twice. -/
  nodup : (cs.map (·.id)).Nodup
  /-- The contacts are those asked for. -/
  mem_iff : ∀ i, i ∈ cs.map (·.id) ↔ i.number ∈ ids ∧
    i ∈ (keyedIds schema request.sorting (rows schema)).map (·.1)

theorem gives_fetchType (hs : r.Serves s request rows n) {ids : List LocalId} (hne : ids ≠ [])
    (hids : ids = (r.firstIds request rows n).map (·.number)) {schema : Schema}
    (hschema : schema ∈ r.schemas.toList) :
    (r.fetchType s { filter := .ids ids, sorting := [], hint := request.hint } none schema).Gives
      (AreOf request rows ids schema) := by
  obtain ⟨id, rest, rfl⟩ := List.exists_cons_of_ne_nil hne
  obtain ⟨p, hp, htype, hsorted⟩ := exists_plan_ids (r.scope schema) id rest request.hint
  refine (Run.gives_ofRejection (Q := fun q => q = p) hp rfl).bind ?_
  rintro p rfl
  refine (Run.gives_query fun st => hs.contacts schema hschema p (hids ▸ hp) st).bind
    fun table htable => ?_
  refine (Run.gives_isCanceled hs.uncanceled).bind ?_
  rintro _ rfl
  rw [Result.contacts_eq_told]
  refine (Run.gives_ofExcept (Q := fun cs => cs = (Result.told r.frame p table).contacts)
    rfl).bind ?_
  rintro _ rfl
  have hmap : (r.arrange p [] (Result.told r.frame p table).contacts).map (·.id) =
      (Result.told r.frame p table).contacts.map (·.id) := by
    rw [arrange, hsorted, if_pos rfl, Computed.map_id_complete]
  refine Run.gives_pure ⟨hmap ▸ Result.nodup_told, fun i => ?_⟩
  rw [hmap, Result.mem_told_iff, htable, ← hids, mem_map_keyedIds_iff, htype, and_left_comm]
  rfl

/-- Schemas of a set are of different types. -/
theorem pairwise_type_ne (set : SchemaSet) :
    set.toList.Pairwise fun a b => a.type ≠ b.type := by
  rw [SchemaSet.toList, List.pairwise_append]
  refine ⟨?_, ?_, fun a ha b hb => ?_⟩
  · cases set.person <;> simp
  · cases set.group <;> simp
  · rw [set.person_type a (Option.mem_toList.mp ha), set.group_type b (Option.mem_toList.mp hb)]
    exact ContactType.noConfusion

/-- Contacts fetched type by type are those of all types that are asked for, each once. -/
theorem gives_fetchTypes (hs : r.Serves s request rows n) {ids : List LocalId} (hne : ids ≠ [])
    (hids : ids = (r.firstIds request rows n).map (·.number)) {schemas : List Schema}
    (hschemas : ∀ schema ∈ schemas, schema ∈ r.schemas.toList)
    (htypes : schemas.Pairwise fun a b => a.type ≠ b.type) {cs : List Contact}
    (hcs : (cs.map (·.id)).Nodup)
    (hapart : ∀ i ∈ cs.map (·.id), ∀ schema ∈ schemas, i.type ≠ schema.type) :
    (r.fetchTypes s { filter := .ids ids, sorting := [], hint := request.hint } none schemas
      cs).Gives fun found => (found.map (·.id)).Nodup ∧ ∀ i, i ∈ found.map (·.id) ↔
        i ∈ cs.map (·.id) ∨ i.number ∈ ids ∧ ∃ schema ∈ schemas,
          i ∈ (keyedIds schema request.sorting (rows schema)).map (·.1) := by
  induction schemas generalizing cs with
  | nil => exact Run.gives_pure ⟨hcs, by simp⟩
  | cons schema schemas ih =>
    rw [List.forall_mem_cons] at hschemas
    obtain ⟨hne_type, htypes⟩ := List.pairwise_cons.mp htypes
    refine (Run.gives_checkCanceled hs.uncanceled).bind fun _ _ => ?_
    refine (gives_fetchType hs hne hids hschemas.1).bind fun more hmore => ?_
    have htype : ∀ i ∈ more.map (·.id), i.type = schema.type := fun i hi =>
      (mem_map_keyedIds_iff.mp ((hmore.mem_iff i).mp hi).2).1
    have hdisjoint : ∀ a ∈ cs.map (·.id), ∀ b ∈ more.map (·.id), a ≠ b := by
      rintro a ha b hb rfl
      exact hapart a ha schema List.mem_cons_self (htype a hb)
    show (r.fetchTypes s _ none schemas (Sort.mergeContacts [] cs more)).Gives _
    rw [Sort.mergeContacts_nil]
    refine (ih hschemas.2 htypes ?_ ?_).mono fun found ⟨hnodup, hmem⟩ => ⟨hnodup, fun i => ?_⟩
    · rw [List.map_append]
      exact List.nodup_append.mpr ⟨hcs, hmore.nodup, hdisjoint⟩
    · rw [List.map_append]
      intro i hi schema' hschema'
      rcases List.mem_append.mp hi with hi | hi
      · exact hapart i hi schema' (List.mem_cons_of_mem _ hschema')
      · rw [htype i hi]
        exact hne_type schema' hschema'
    · rw [hmem, List.map_append, List.mem_append, hmore.mem_iff, or_assoc, ← and_or_left]
      simp only [List.mem_cons, exists_eq_or_imp]

/-! ## Back in order -/

/-- The place of an id in a list. -/
def idPlace (ids : List LocalId) (i : ContactId) : Nat :=
  (ids.zipIdx.reverse.lookup i.number).getD (Number.pow2 64)

theorem idPlace_getElem {is : List ContactId} (h : (is.map (·.number)).Nodup) {k : Nat}
    (hk : k < is.length) : idPlace (is.map (·.number)) is[k] = k := by
  have hlookup := lookup_zipIdx_reverse h (k := k) (by rwa [List.length_map])
  rw [List.getElem_map] at hlookup
  rw [idPlace, hlookup, Option.getD_some]

/-- Contacts with the ids of a list are put into its order. -/
theorem map_id_inOrder {is : List ContactId} {cs : List Contact}
    (his : (is.map (·.number)).Nodup) (hperm : (cs.map (·.id)).Perm is) :
    (inOrder (is.map (·.number)) cs).map (·.id) = is := by
  have hplaces : is.Pairwise fun a b =>
      idPlace (is.map (·.number)) a ≤ idPlace (is.map (·.number)) b := by
    rw [List.pairwise_iff_getElem]
    intro a b ha hb hab
    rw [idPlace_getElem his ha, idPlace_getElem his hb]
    exact Nat.le_of_lt hab
  have hsorted : ((inOrder (is.map (·.number)) cs).map (·.id)).Pairwise fun a b =>
      idPlace (is.map (·.number)) a ≤ idPlace (is.map (·.number)) b := by
    rw [List.pairwise_map]
    have horder : Sort.WeakOrderOn (fun a b : Contact =>
        decide (placeIn (is.map (·.number)) a < placeIn (is.map (·.number)) b)) fun _ => True :=
      { asymm := fun _ _ h => by
          simp only [decide_eq_true_eq, decide_eq_false_iff_not] at h ⊢
          omega
        trans := fun _ _ _ hab hbc => by
          simp only [decide_eq_false_iff_not] at hab hbc ⊢
          omega }
    exact (Sort.pairwise_stable horder fun _ _ => trivial).imp fun h =>
      Nat.le_of_not_lt (of_decide_eq_false h)
  have hall : ((inOrder (is.map (·.number)) cs).map (·.id)).Perm is :=
    (Sort.stable_perm.map _).trans hperm
  refine List.Perm.eq_of_pairwise (fun a b ha hb hab hba => ?_) hsorted hplaces hall
  obtain ⟨i, hi, rfl⟩ := List.getElem_of_mem (hall.mem_iff.mp ha)
  obtain ⟨j, hj, rfl⟩ := List.getElem_of_mem hb
  rw [idPlace_getElem his hi, idPlace_getElem his hj] at hab hba
  rw [getElem_congr_idx (Nat.le_antisymm hab hba)]

/-! ## Whole fetches -/

/-- The numbers of the winners are different. -/
theorem nodup_number_firstIds (hrows : r.IsCatalogue request rows) (n : Nat) :
    ((r.firstIds request rows n).map (·.number)).Nodup := by
  rw [firstIds, List.map_map, List.map_take]
  refine List.Sublist.nodup (List.take_sublist _ _) ?_
  exact (Sort.stable_perm.map _).nodup_iff.mpr hrows.distinct

/-- The winners are contacts. -/
theorem mem_entries_of_mem_firstIds {i : ContactId} (h : i ∈ r.firstIds request rows n) :
    i ∈ (r.entries request rows).map (·.1) := by
  obtain ⟨entry, hentry, rfl⟩ := List.mem_map.mp h
  exact List.mem_map_of_mem (Sort.stable_perm.mem_iff.mp (List.mem_of_mem_take hentry))

/-- A number is that of one contact. -/
theorem eq_of_number_eq (hrows : r.IsCatalogue request rows) {i j : ContactId}
    (hi : i ∈ (r.entries request rows).map (·.1)) (hj : j ∈ (r.entries request rows).map (·.1))
    (h : i.number = j.number) : i = j := by
  obtain ⟨a, ha, rfl⟩ := List.mem_map.mp hi
  obtain ⟨b, hb, rfl⟩ := List.mem_map.mp hj
  obtain ⟨k, hk, rfl⟩ := List.getElem_of_mem ha
  obtain ⟨l, hl, rfl⟩ := List.getElem_of_mem hb
  have hk' : k < ((r.entries request rows).map (·.1.number)).length := by rwa [List.length_map]
  have hl' : l < ((r.entries request rows).map (·.1.number)).length := by rwa [List.length_map]
  have hnumbers : ((r.entries request rows).map (·.1.number))[k] =
      ((r.entries request rows).map (·.1.number))[l] := by
    rw [List.getElem_map, List.getElem_map]
    exact h
  rw [getElem_congr_idx ((List.getElem_inj hrows.distinct).mp hnumbers)]

theorem mem_entries_iff {i : ContactId} : i ∈ (r.entries request rows).map (·.1) ↔
    ∃ schema ∈ r.schemas.toList,
      i ∈ (keyedIds schema request.sorting (rows schema)).map (·.1) := by
  rw [entries, List.map_flatten, List.map_map, ← List.flatMap_def, List.mem_flatMap]
  rfl

/-- Fetching the winners gives them in their order. -/
theorem gives_fetchByIds (hrows : r.IsCatalogue request rows) (hs : r.Serves s request rows n)
    (hne : r.firstIds request rows n ≠ []) :
    (r.fetchByIds s request.hint ((r.firstIds request rows n).map (·.number))).Gives fun cs =>
      cs.map (·.id) = r.firstIds request rows n := by
  have hstart : (([] : List Contact).map (·.id)).Nodup := List.nodup_nil
  refine (gives_fetchTypes hs (mt List.map_eq_nil_iff.mp hne) rfl (fun _ h => h)
    (pairwise_type_ne r.schemas) hstart (by simp)).bind fun cs ⟨hnodup, hmem⟩ => ?_
  have hnumbers := nodup_number_firstIds hrows n
  refine Run.gives_pure (map_id_inOrder hnumbers ?_)
  have hids : (r.firstIds request rows n).Nodup :=
    List.Pairwise.of_map (·.number) (fun _ _ hne heq => hne (congrArg _ heq)) hnumbers
  refine (List.perm_ext_iff_of_nodup hnodup hids).mpr fun i => ?_
  rw [hmem, ← mem_entries_iff]
  constructor
  · rintro (hi | ⟨hi, hentry⟩)
    · exact absurd hi List.not_mem_nil
    · obtain ⟨j, hj, hnumber⟩ := List.mem_map.mp hi
      exact eq_of_number_eq hrows (mem_entries_of_mem_firstIds hj) hentry hnumber ▸ hj
  · exact fun hi => .inr ⟨List.mem_map_of_mem hi, mem_entries_of_mem_firstIds hi⟩

/-- A sorted fetch with a limit gives the first of all contacts, in order. -/
theorem gives_fetch_firstIds (hsorted : request.sorting ≠ [])
    (hlimit : request.hint.maxCount = some n)
    (hfilter : ∀ schema ∈ r.schemas.toList,
      ∃ e m, restriction (r.scope schema) request.filter 0 = .ok (e, m))
    (horders : ∀ schema ∈ r.schemas.toList, ∀ o ∈ request.sorting, o.IsEvaluable schema)
    (hrows : r.IsCatalogue request rows) (hs : r.Serves s request rows n) :
    (r.fetch s request).Gives fun cs => cs.map (·.id) = r.firstIds request rows n := by
  have hselect : ∀ schema ∈ r.schemas.toList,
      ∃ select, idSelect (r.scope schema) request = .ok select := by
    intro schema hschema
    obtain ⟨e, m, hfilter⟩ := hfilter schema hschema
    exact exists_idSelect hfilter (horders schema hschema)
  have hbounded : (request.hint.maxCount.isSome && !request.sorting.isEmpty) = true := by
    simp [hlimit, hsorted]
  rw [fetch, if_pos hbounded]
  refine (gives_fetchSortedIds_firstIds hrows hs hlimit hselect).outcome.bind ?_
  rintro _ ⟨_, rfl, rfl⟩
  cases hids : r.firstIds request rows n with
  | nil => exact Run.gives_pure rfl
  | cons id ids =>
    have hne : r.firstIds request rows n ≠ [] := hids ▸ List.cons_ne_nil id ids
    have hgives := gives_fetchByIds hrows hs hne
    rw [hids] at hgives
    exact hgives

/-- A schema of contacts of a class, with a nickname. -/
def nicknamed (type : ContactType) (c : Iri) : Schema :=
  { type, classes := [c]
    details := [{
      name := Names.nickname, unique := true, dependencies := [Names.nickname]
      fields := [{
        name := Names.nickname, type := .text
        chain := [{ iri := Vocabulary.Nco.nickname }] }] }] }

/-- A reader of nicknames. -/
def nicknameReader : Reader :=
  { settings := { includeSelf := true }
    schemas := {
      person := some (nicknamed .person "urn:person")
      group := some (nicknamed .group "urn:group")
      person_type := by simp [nicknamed]
      group_type := by simp [nicknamed] } }

/-- A request for the nicknames of two contacts, by nickname. -/
def firstTwo : Request :=
  { sorting := [{
      detail := Names.nickname, field := Names.nickname, caseSensitive := false, blanks := .first }]
    hint := { details := [Names.nickname], noRelationships := true, maxCount := some 2 } }

/-- The rows of three persons and of two groups, one of which has no nickname. -/
def nicknames : ContactType → Table
  | .person => [
    [none, some "5", some "anna"], [none, some "7", some "carl"], [none, some "8", some "dora"]]
  | .group => [[none, some "3"], [none, some "4", some "anna"]]

/-- The rows that a service for nicknames answers with : to a query for ids the first two of a type,
and to one for contacts those with number 3 or 5, each twice. -/
def nicknameAnswer (forIds forGroups : Bool) : Table :=
  let rows := nicknames (if forGroups then .group else .person)
  let wanted := rows.filter fun row => row.id? idColumn = some 3 ∨ row.id? idColumn = some 5
  if forIds then rows.take 2 else wanted ++ wanted

/-- What a query asks for : ids or contacts, of groups or of persons. -/
def queryKind (text : List Char) : Bool × Bool :=
  (hasPart "ORDER BY".toList text, hasPart "urn:group".toList text)

/-- A service that holds the nicknames and tells queries apart by their texts. -/
def nicknameService : Service Unit :=
  { select := fun text st =>
      let (forIds, forGroups) := queryKind text.toList
      (.ok (nicknameAnswer forIds forGroups), st)
    resolve := fun _ st => (.ok [], st)
    canceled := fun _ => false }

theorem select_nicknameService {q : Select} {forIds forGroups : Bool} (st : Unit)
    (h : queryKind q.print = (forIds, forGroups)) :
    (nicknameService.select q.text st).1 = .ok (nicknameAnswer forIds forGroups) := by
  simp only [nicknameService, Select.text, String.toList_ofList, h]

theorem mem_nicknameAnswer_iff {type : ContactType} {row : Row} :
    row ∈ nicknameAnswer false (decide (type = .group)) ↔
      row ∈ nicknames type ∧ (row.id? idColumn = some 3 ∨ row.id? idColumn = some 5) := by
  have htype : (if type = .group then .group else .person) = type := by
    cases type <;> rfl
  simp [nicknameAnswer, htype]

/-- The group without a nickname comes first, and then one of two contacts with the same one. -/
theorem gives_fetch_nicknames :
    (nicknameReader.fetch nicknameService firstTwo).Gives fun cs =>
      cs.map (·.id) = [⟨.group, 3⟩, ⟨.person, 5⟩] := by
  have hfirst : nicknameReader.firstIds firstTwo (fun schema => nicknames schema.type) 2 =
      [⟨.group, 3⟩, ⟨.person, 5⟩] := by
    decide +kernel
  have hschemas : ∀ P : Schema → Prop, P (nicknamed .person "urn:person") →
      P (nicknamed .group "urn:group") → ∀ schema ∈ nicknameReader.schemas.toList, P schema :=
    fun P hperson hgroup => List.forall_mem_cons.mpr ⟨hperson, List.forall_mem_singleton.mpr hgroup⟩
  have hids : ∀ schema ∈ nicknameReader.schemas.toList,
      (idSelect (nicknameReader.scope schema) firstTwo).toOption.map (queryKind ·.print) =
        some (true, decide (schema.type = .group)) :=
    hschemas _ (by decide +kernel) (by decide +kernel)
  have hcontacts : ∀ schema ∈ nicknameReader.schemas.toList,
      (plan (nicknameReader.scope schema)
        { filter := .ids [3, 5], sorting := [], hint := firstTwo.hint }).toOption.map
          (queryKind ·.select.print) = some (false, decide (schema.type = .group)) :=
    hschemas _ (by decide +kernel) (by decide +kernel)
  rw [← hfirst]
  refine gives_fetch_firstIds (by decide) rfl (hschemas _ ⟨_, _, rfl⟩ ⟨_, _, rfl⟩)
    (hschemas _ ?_ ?_) ?_ ?_
  · exact (orderConditions_isSome_iff (n := 0)).mp rfl
  · exact (orderConditions_isSome_iff (n := 0)).mp rfl
  · exact {
      numbered := by decide +kernel
      ordered := by decide +kernel
      distinct := by decide +kernel }
  · refine {
      uncanceled := fun _ => rfl
      ids := fun schema hschema select hselect st => ?_
      contacts := fun schema hschema p hp st => ?_ }
    · have hkind := hids schema hschema
      rw [hselect] at hkind
      rw [select_nicknameService st (Option.some.inj hkind), nicknameAnswer]
      cases schema.type <;> rfl
    · have hkind := hcontacts schema hschema
      rw [hfirst] at hp ⊢
      rw [show [ContactId.mk .group 3, ⟨.person, 5⟩].map (·.number) = [3, 5] from rfl] at hp ⊢
      rw [hp] at hkind
      refine ⟨_, select_nicknameService st (Option.some.inj hkind), fun id => ?_⟩
      simp only [mem_nicknameAnswer_iff, List.mem_cons, List.not_mem_nil, or_false]
      constructor
      · rintro ⟨row, ⟨hrow, hwanted⟩, hid⟩
        rw [hid, Option.some.injEq, Option.some.injEq] at hwanted
        exact ⟨hwanted, row, hrow, hid⟩
      · rintro ⟨hwanted, row, hrow, hid⟩
        refine ⟨row, ⟨hrow, ?_⟩, hid⟩
        rwa [hid, Option.some.injEq, Option.some.injEq]

end Reader

end ContactGraph
