import ContactGraph.Proofs.Reading.Bounded
import ContactGraph.Proofs.Sort.Integers

/-!
# Ids sorted by integers

The ids of all types are merged by their sort keys, and the key of an integer is a double. So ids
that are sorted by integers come in the order of the nearest doubles, which is that of the integers
unless different ones of two contacts become the same double (`gives_fetchIds_integers`). Beyond
`2 ^ 53` neighbours do, and then a contact can stand behind one with a greater number, as
`gives_fetchIds_neighbours` shows.
-/

namespace ContactGraph

open Query

namespace Reader

variable {σ : Type} {r : Reader} {s : Service σ} {request : Request} {tables : Schema → Table}
  {schema : Schema} {sorting : List SortOrder} {table : Table}

/-- The ids that are fetched are picked from the answers for all types. -/
theorem gives_fetchIds (hs : r.AnswersIds s request tables)
    (hselect : ∀ schema ∈ r.schemas.toList,
      ∃ select, idSelect (r.scope schema) request = .ok select) :
    (r.fetchIds s request).Gives fun ids =>
      ids = pickIds request.sorting request.hint.maxCount (r.entries request tables) := by
  refine (gives_fetchSortedIds hs hselect).outcome.bind ?_
  rintro _ ⟨ids, rfl, hids⟩
  exact Run.gives_pure hids

/-! ## Integers in tables -/

/-- The integers in the sort cells of a row. -/
def integersOf (count : Nat) (row : Row) : List (Option Int64) :=
  (List.range count).map fun i => SortKey.integer? (row.cell? (idColumn + 1 + i))

/-- The ids in a table and the integers that they are sorted by. -/
def integerIds (schema : Schema) (count : Nat) (table : Table) :
    List (ContactId × List (Option Int64)) :=
  table.filterMap fun row => (row.id? idColumn).map fun id =>
    (⟨schema.type, id⟩, integersOf count row)

/-- The ids of all types and the integers that they are sorted by. -/
def integerEntries (r : Reader) (request : Request) (tables : Schema → Table) :
    List (ContactId × List (Option Int64)) :=
  (r.schemas.toList.map fun schema =>
    integerIds schema request.sorting.length (tables schema)).flatten

/-- The tables have integers in all sort cells, or nothing. -/
def HasIntegers (r : Reader) (request : Request) (tables : Schema → Table) : Prop :=
  ∀ schema ∈ r.schemas.toList, ∀ row ∈ tables schema, ∀ i < request.sorting.length,
    SortKey.IsIntegral (row.cell? (idColumn + 1 + i))

/-- The sort keys of an entry. -/
def keyed (entry : ContactId × List (Option Int64)) : ContactId × List SortKey :=
  (entry.1, entry.2.map SortKey.ofInteger)

theorem keysOf_eq (htypes : ∀ o ∈ sorting, schema.keyType o = .integer) {row : Row}
    (hcells : ∀ i < sorting.length, SortKey.IsIntegral (row.cell? (idColumn + 1 + i))) :
    (sorting.zipIdx.map fun (o, i) =>
        SortKey.read (row.cell? (idColumn + 1 + i)) (schema.keyType o)) =
      (integersOf sorting.length row).map SortKey.ofInteger := by
  refine List.ext_getElem (by simp [integersOf]) fun i hi hi' => ?_
  have hlt : i < sorting.length := by simpa using hi
  simp only [integersOf, List.getElem_map, List.getElem_zipIdx, List.getElem_range, Nat.zero_add]
  rw [htypes _ (List.getElem_mem hlt), SortKey.read_integer (hcells i hlt)]

/-- The sort keys in a table are those of the integers in it. -/
theorem keyedIds_eq (htypes : ∀ o ∈ sorting, schema.keyType o = .integer)
    (hcells : ∀ row ∈ table, ∀ i < sorting.length,
      SortKey.IsIntegral (row.cell? (idColumn + 1 + i))) :
    keyedIds schema sorting table = (integerIds schema sorting.length table).map keyed := by
  rw [keyedIds, integerIds, List.map_filterMap]
  refine List.filterMap_congr fun row hrow => ?_
  rw [Option.map_map]
  refine congrArg (fun f => (row.id? idColumn).map f) (funext fun id => ?_)
  exact congrArg (Prod.mk _) (keysOf_eq htypes (hcells row hrow))

theorem entries_eq (htypes : ∀ schema ∈ r.schemas.toList, ∀ o ∈ request.sorting,
    schema.keyType o = .integer) (hcells : r.HasIntegers request tables) :
    r.entries request tables = (r.integerEntries request tables).map keyed := by
  rw [entries, integerEntries, List.map_flatten, List.map_map]
  exact congrArg List.flatten (List.map_congr_left fun schema hschema =>
    keyedIds_eq (htypes schema hschema) (hcells schema hschema))

theorem length_of_mem_integerEntries {entry : ContactId × List (Option Int64)}
    (h : entry ∈ r.integerEntries request tables) : entry.2.length = request.sorting.length := by
  obtain ⟨ids, hids, hentry⟩ := List.mem_flatten.mp h
  obtain ⟨schema, -, rfl⟩ := List.mem_map.mp hids
  obtain ⟨row, -, hrow⟩ := List.mem_filterMap.mp hentry
  obtain ⟨id, -, rfl⟩ := Option.map_eq_some_iff.mp hrow
  simp [integersOf]

/-! ## Merging -/

/-- Entries with integers for every sort order are put into the order of the nearest doubles. -/
theorem isSorted_keyed {entries : List (ContactId × List (Option Int64))}
    (h : ∀ entry ∈ entries, entry.2.length = sorting.length) :
    Sort.IsSorted (fun a b =>
        SortKey.compareValues SortKey.rounded sorting a.2 b.2) entries
      (Sort.stableBy (fun a b => SortKey.compareAll sorting (keyed a).2 (keyed b).2) entries) := by
  have hpreorder := (SortKey.preorderOn_compareAll sorting).on
    fun entry : ContactId × List (Option Int64) => (keyed entry).2
  refine (Sort.isSorted_stableBy hpreorder fun entry hentry => ?_).congr fun a _ b _ =>
    SortKey.compareAll_map_ofInteger sorting a.2 b.2
  exact (List.length_map _).trans (h entry hentry)

/-- The ids of entries in the order of their integers, as far as doubles tell them apart. -/
structure MergesIntegers (request : Request) (entries : List (ContactId × List (Option Int64)))
    (ids : List ContactId) : Prop where
  /-- The ids are the first ones in the order of the nearest doubles. -/
  rounded : ∃ merged, Sort.IsSorted (fun a b =>
      SortKey.compareValues SortKey.rounded request.sorting a.2 b.2)
      entries merged ∧ ids = (takeLimit request.hint.maxCount merged).map (·.1)
  /-- They are the first ones in the order of the integers, when doubles keep these apart. -/
  precise : (∀ a ∈ entries, ∀ b ∈ entries, SortKey.KeptApart a.2 b.2) →
    ∃ merged, Sort.IsSorted (fun a b =>
      SortKey.compareValues Int64.toInt request.sorting a.2 b.2) entries merged ∧
      ids = (takeLimit request.hint.maxCount merged).map (·.1)
  /-- Then only entries with the same integers are tied. -/
  tied : (∀ a ∈ entries, ∀ b ∈ entries, SortKey.KeptApart a.2 b.2) →
    ∀ a ∈ entries, ∀ b ∈ entries,
      SortKey.compareAll request.sorting (keyed a).2 (keyed b).2 = .eq ↔ a.2 = b.2

theorem takeLimit_map {α β : Type} (f : α → β) (limit : Option Nat) (xs : List α) :
    takeLimit limit (xs.map f) = (takeLimit limit xs).map f := by
  cases limit with
  | none => rfl
  | some n => exact List.map_take.symm

theorem mergesIntegers_pickIds {entries : List (ContactId × List (Option Int64))}
    (h : ∀ entry ∈ entries, entry.2.length = request.sorting.length) :
    MergesIntegers request entries
      (pickIds request.sorting request.hint.maxCount (entries.map keyed)) := by
  have hsorted := isSorted_keyed h
  have hids : pickIds request.sorting request.hint.maxCount (entries.map keyed) =
      (takeLimit request.hint.maxCount (Sort.stableBy
        (fun a b => SortKey.compareAll request.sorting (keyed a).2 (keyed b).2) entries)).map
        (·.1) := by
    rw [pickIds, Sort.stableBy, Sort.stable_map, takeLimit_map, List.map_map]
    rfl
  refine ⟨⟨_, hsorted, hids⟩, fun hapart => ⟨_, hsorted.congr fun a ha b hb => ?_, hids⟩,
    fun hapart a ha b hb => ?_⟩
  · exact SortKey.compareValues_of_keptApart _ (hapart a ha b hb)
  · rw [keyed, keyed, SortKey.compareAll_map_ofInteger,
      SortKey.compareValues_of_keptApart _ (hapart a ha b hb),
      SortKey.compareValues_eq_eq_iff (h a ha) (h b hb)]

/-- Integers are compared as doubles. The keys of two of them compare as what is left of them, and
ids that are sorted by integers are merged in the order of that. It is the order of the integers,
and ties are true ones, when no two different integers of contacts become the same double, as up to
`2 ^ 53` none do. -/
theorem gives_fetchIds_integers (hs : r.AnswersIds s request tables)
    (hfilter : ∀ schema ∈ r.schemas.toList,
      ∃ e m, restriction (r.scope schema) request.filter 0 = .ok (e, m))
    (horders : ∀ schema ∈ r.schemas.toList, ∀ o ∈ request.sorting,
      o.IsEvaluable schema ∧ schema.keyType o = .integer)
    (hcells : r.HasIntegers request tables) :
    (∀ a b : Int64, SortKey.ComparesTexts a b) ∧
      (r.fetchIds s request).Gives (MergesIntegers request (r.integerEntries request tables)) := by
  have hselect : ∀ schema ∈ r.schemas.toList,
      ∃ select, idSelect (r.scope schema) request = .ok select := by
    intro schema hschema
    obtain ⟨e, m, hfilter⟩ := hfilter schema hschema
    exact exists_idSelect hfilter fun o ho => (horders schema hschema o ho).1
  refine ⟨SortKey.comparesTexts, (gives_fetchIds hs hselect).mono ?_⟩
  rintro _ rfl
  rw [entries_eq (fun schema hschema o ho => (horders schema hschema o ho).2) hcells]
  exact mergesIntegers_pickIds fun entry => length_of_mem_integerEntries

/-- A schema of contacts of a class, with a score in points. -/
def scored (type : ContactType) (c : Iri) : Schema :=
  { type, classes := [c]
    details := [{
      name := "Score", unique := true, dependencies := ["Score"]
      fields := [{ name := "Points", type := .integer, chain := [{ iri := "urn:points" }] }] }] }

/-- A reader of scores. -/
def scoreReader : Reader :=
  { settings := {}
    schemas := {
      person := some (scored .person "urn:person")
      group := some (scored .group "urn:group")
      person_type := by simp [scored]
      group_type := by simp [scored] } }

/-- A request by points. -/
def byPoints : Request :=
  { sorting := [{
      detail := "Score", field := "Points", caseSensitive := false, blanks := .first }] }

/-- A service that answers with a table for each type. -/
def scoreService (tables : ContactType → Table) : Service Unit :=
  { select := fun text st =>
      let type := if hasPart "urn:group".toList text.toList then .group else .person
      (.ok (tables type), st)
    resolve := fun _ st => (.ok [], st)
    canceled := fun _ => false }

theorem forall_mem_scoreReader {P : Schema → Prop} (hperson : P (scored .person "urn:person"))
    (hgroup : P (scored .group "urn:group")) : ∀ schema ∈ scoreReader.schemas.toList, P schema :=
  List.forall_mem_cons.mpr ⟨hperson, List.forall_mem_singleton.mpr hgroup⟩

theorem answersIds_scoreService (tables : ContactType → Table) :
    scoreReader.AnswersIds (scoreService tables) byPoints fun schema => tables schema.type where
  uncanceled _ := rfl
  answer schema hschema select hselect st := by
    have hkinds : ∀ schema ∈ scoreReader.schemas.toList,
        (idSelect (scoreReader.scope schema) byPoints).toOption.map
          (hasPart "urn:group".toList ·.print) = some (decide (schema.type = .group)) :=
      forall_mem_scoreReader (by decide +kernel) (by decide +kernel)
    have hkind := hkinds schema hschema
    rw [hselect] at hkind
    have hpart : hasPart "urn:group".toList select.print = decide (schema.type = .group) :=
      Option.some.inj hkind
    simp only [scoreService, Select.text, String.toList_ofList, hpart]
    cases schema.type <;> rfl

theorem isEvaluable_byPoints : ∀ schema ∈ scoreReader.schemas.toList, ∀ o ∈ byPoints.sorting,
    o.IsEvaluable schema ∧ schema.keyType o = .integer := by
  have horders {schema : Schema} (h : (orderConditions schema byPoints.sorting 0).1.isSome = true)
      (htype : ∀ o ∈ byPoints.sorting, schema.keyType o = .integer) :
      ∀ o ∈ byPoints.sorting, o.IsEvaluable schema ∧ schema.keyType o = .integer := fun o ho =>
    ⟨orderConditions_isSome_iff.mp h o ho, htype o ho⟩
  exact forall_mem_scoreReader (horders rfl (by decide)) (horders rfl (by decide))

theorem exists_restriction_byPoints : ∀ schema ∈ scoreReader.schemas.toList,
    ∃ e m, restriction (scoreReader.scope schema) byPoints.filter 0 = .ok (e, m) :=
  forall_mem_scoreReader ⟨_, _, rfl⟩ ⟨_, _, rfl⟩

theorem gives_fetchIds_scoreService {tables : ContactType → Table} {ids : List ContactId}
    (h : pickIds byPoints.sorting none
      (scoreReader.entries byPoints fun schema => tables schema.type) = ids) :
    (scoreReader.fetchIds (scoreService tables) byPoints).Gives fun found => found = ids := by
  rw [← h]
  refine gives_fetchIds (answersIds_scoreService tables) fun schema hschema => ?_
  obtain ⟨e, m, hfilter⟩ := exists_restriction_byPoints schema hschema
  exact exists_idSelect hfilter fun o ho => (isEvaluable_byPoints schema hschema o ho).1

/-- Scores of two persons, one without points, and of a group with one point less than the other.
Doubles have a distance of two there. -/
def scores : ContactType → Table
  | .person => [[none, some "5", none], [none, some "1", some "9007199254740995"]]
  | .group => [[none, some "2", some "9007199254740994"]]

/-- The two scores become different doubles, and the ids come in the order of the points. -/
theorem gives_fetchIds_scores :
    (∀ a ∈ scoreReader.integerEntries byPoints fun schema => scores schema.type,
      ∀ b ∈ scoreReader.integerEntries byPoints fun schema => scores schema.type,
        SortKey.KeptApart a.2 b.2) ∧
      (scoreReader.fetchIds (scoreService scores) byPoints).Gives
        (MergesIntegers byPoints
          (scoreReader.integerEntries byPoints fun schema => scores schema.type)) ∧
      (scoreReader.fetchIds (scoreService scores) byPoints).Gives fun ids =>
        ids = [⟨.person, 5⟩, ⟨.group, 2⟩, ⟨.person, 1⟩] := by
  have hcells : scoreReader.HasIntegers byPoints fun schema => scores schema.type :=
    forall_mem_scoreReader (by decide +kernel) (by decide +kernel)
  refine ⟨by decide +kernel, ?_, gives_fetchIds_scoreService (by decide +kernel)⟩
  exact (gives_fetchIds_integers (answersIds_scoreService scores) exists_restriction_byPoints
    isEvaluable_byPoints hcells).2

/-- Scores of a person and of a group with one point less. -/
def neighbours : ContactType → Table
  | .person => [[none, some "1", some "9007199254740993"]]
  | .group => [[none, some "2", some "9007199254740992"]]

/-- The two scores become the same double, so the person comes first in spite of its points. -/
theorem gives_fetchIds_neighbours : compare (9007199254740993 : Int) 9007199254740992 = .gt ∧
    (SortKey.read (some "9007199254740993") .integer).order
      (SortKey.read (some "9007199254740992") .integer) = .eq ∧
    (scoreReader.fetchIds (scoreService neighbours) byPoints).Gives fun ids =>
      ids = [⟨.person, 1⟩, ⟨.group, 2⟩] := by
  have hkeys : (SortKey.read (some "9007199254740993") .integer).order
      (SortKey.read (some "9007199254740992") .integer) = .eq := by
    decide +kernel
  exact ⟨rfl, hkeys, gives_fetchIds_scoreService (by decide +kernel)⟩

end Reader

end ContactGraph
