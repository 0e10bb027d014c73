import ContactGraph.Proofs.Reading.Limit
import ContactGraph.Proofs.Sort.Contacts

/-!
# Limits without an order

Contacts that nobody asks to sort stand in the order in which they arrive, type by type. As long as
the rows of each contact stand together, a limit then cuts the list of all contacts off : a fetch
for `n` contacts gives the first `n` of those that a fetch without a limit gives, each with all
there is to it (`gives_fetch_take`). What is left of the limit is handed on from type to type, so
the invariant of the loop is that with the limit just the first `n` of all contacts so far are there
(`readTypes_take`).
-/

namespace ContactGraph

/-- Without sort orders, sorting changes nothing. -/
theorem Sort.contacts_nil (cs : List Contact) : Sort.contacts [] cs = cs :=
  Sort.stable_eq_self (P := fun _ => True) ⟨nofun, fun _ _ _ _ _ => rfl⟩ (fun _ _ => trivial)
    (List.pairwise_of_forall fun _ _ => rfl)

namespace Reader

open Query

variable {σ : Type} {r : Reader} {s : Service σ} {answer : String → Except String Table}
  {request : Request} {schema : Schema} {schemas : List Schema} {p : Plan} {table : Table} {n : Nat}
  {cs : List Contact}

/-! ## One type -/

/-- Without sort orders, contacts stay in the order in which they were read. -/
theorem arrange_nil (r : Reader) (p : Plan) (cs : List Contact) :
    r.arrange p [] cs = cs.map (Computed.complete r.settings p.details) := by
  rw [arrange]
  split
  · rfl
  · exact Sort.contacts_nil _

theorem exists_answer_of_answered (h : r.answered answer request schema = .ok (p, table)) :
    ∃ text, answer text = .ok table := by
  cases hplan : plan (r.scope schema) request with
  | error rejection =>
    rw [answered, hplan] at h
    cases h
  | ok q =>
    rw [answered_of_plan hplan] at h
    cases hanswer : answer q.select.text with
    | error reason =>
      rw [hanswer] at h
      cases h
    | ok rows =>
      rw [hanswer] at h
      cases h
      exact ⟨_, hanswer⟩

/-- A limit cuts off the contacts of one type. -/
theorem readType_take (hunsorted : request.sorting = []) (htable : Result.IsContiguous table)
    (n : Nat) :
    r.readType request (some n) p table = (r.readType request none p table).take n := by
  rw [readType, readType, hunsorted, arrange_nil, arrange_nil,
    Result.readRows_contiguous htable, List.map_take]

/-! ## Several types -/

/-- What is left of a limit cuts off the contacts of one more type. -/
theorem take_mergeContacts (hunsorted : request.sorting = []) (htable : Result.IsContiguous table)
    (n : Nat) (cs : List Contact) :
    Sort.mergeContacts request.sorting (cs.take n)
        (r.readType request (remaining (some n) (cs.take n)) p table) =
      (Sort.mergeContacts request.sorting cs (r.readType request none p table)).take n := by
  have hleft : remaining (some n) (cs.take n) = some (n - cs.length) := by
    rw [remaining, Option.map_some, List.length_take]
    congr 1
    omega
  rw [hleft, hunsorted, Sort.mergeContacts_nil, Sort.mergeContacts_nil,
    readType_take hunsorted htable, List.take_append]

/-- Where a fetch without a limit succeeds, one with a limit gives the first contacts of it. -/
theorem readTypes_take (hunsorted : request.sorting = [])
    (hanswers : ∀ text table, answer text = .ok table → Result.IsContiguous table)
    {all : List Contact} (hread : r.readTypes answer request none schemas cs = .ok all) :
    r.readTypes answer request (some n) schemas (cs.take n) = .ok (all.take n) := by
  -- `cs` is what the types in front have given without the limit
  induction schemas generalizing cs with
  | nil =>
    cases hread
    rfl
  | cons schema schemas ih =>
    cases hanswered : r.answered answer request schema with
    | error e =>
      rw [readTypes, hanswered] at hread
      cases hread
    | ok found =>
      obtain ⟨p, table⟩ := found
      obtain ⟨text, htext⟩ := exists_answer_of_answered hanswered
      rw [readTypes_cons hanswered] at hread ⊢
      rw [take_mergeContacts hunsorted (hanswers text table htext)]
      exact ih hread

/-! ## Whole fetches -/

/-- Without sort orders no ids are fetched first. -/
theorem fetch_eq_fetchDirectly (r : Reader) (s : Service σ) (hunsorted : request.sorting = []) :
    r.fetch s request = r.fetchDirectly s request := by
  have hdirect : (request.hint.maxCount.isSome && !request.sorting.isEmpty) = false := by
    rw [hunsorted, List.isEmpty_nil, Bool.not_true, Bool.and_false]
  rw [fetch, if_neg (Bool.eq_false_iff.mp hdirect)]

/-- Of an unsorted request, a limit of `n` leaves the first `n` contacts over all types, each just
as it is without the limit. This needs a service whose answers depend only on the queries and keep
the rows of each contact together. -/
theorem gives_fetch_take (hs : s.IsSteady answer) (hunsorted : request.sorting = [])
    (hunlimited : request.hint.maxCount = none)
    (hanswers : ∀ text table, answer text = .ok table → Result.IsContiguous table)
    {st : σ} (hfetch : ((r.fetch s request).run st).1 = .ok cs) (n : Nat) :
    (r.fetch s (request.upTo n)).Gives (· = cs.take n) := by
  rw [fetch_eq_fetchTypes s hunlimited] at hfetch
  have hlive := live_of_fetchTypes hs hfetch
  rw [yields_fetchTypes hs hlive r request none [] st] at hfetch
  have hlimited := yields_fetchTypes hs hlive r (request.upTo n) (some n) []
  have hread := readTypes_take (n := n) hunsorted hanswers hfetch
  rw [List.take_nil] at hread
  rw [readTypes_upTo, hread] at hlimited
  have hunsorted' : (request.upTo n).sorting = [] := hunsorted
  rw [fetch_eq_fetchDirectly r s hunsorted']
  exact hlimited.gives (Q := (· = cs.take n)) rfl

/-- All contacts with their nicknames, in no order. -/
def unsorted : Request :=
  { hint := { details := [Names.nickname], noRelationships := true } }

/-- Three rows of two contacts, and one row of nobody. -/
def amyAndZed : Table := [
  [none, some "7", none, none, some "amy"], [none, some "7", none, none, some "ann"],
  [none, none, none, none, some "bob"], [none, some "2", none, none, some "zed"]]

theorem isContiguous_amyAndZed : Result.IsContiguous amyAndZed := by
  intro id other hne hbetween
  have hids : amyAndZed.filterMap (·.id? Query.idColumn) = [7, 7, 2] := by decide +kernel
  rw [hids] at hbetween
  have hid : id = 7 ∨ id = 2 := by simpa using hbetween.subset List.mem_cons_self
  have hother : other = 7 ∨ other = 2 := by
    simpa using hbetween.subset (List.mem_cons_of_mem id List.mem_cons_self)
  rcases hid with rfl | rfl <;> rcases hother with rfl | rfl
  · exact hne rfl
  · exact absurd hbetween (by decide)
  · exact absurd hbetween (by decide)
  · exact hne rfl

/-- Persons and groups are read from the same rows. -/
theorem exists_fetch_amyAndZed :
    ∃ cs, ((nicknameReader.fetch (constantService amyAndZed) unsorted).run ()).1 = .ok cs ∧
      cs.map (·.id) = [⟨.person, 7⟩, ⟨.person, 2⟩, ⟨.group, 7⟩, ⟨.group, 2⟩] := by
  obtain ⟨p, q, hp, hq, hids⟩ : ∃ p q,
      nicknameReader.answered (fun _ => .ok amyAndZed) unsorted (nicknamed .person "urn:person") =
        .ok (p, amyAndZed) ∧
      nicknameReader.answered (fun _ => .ok amyAndZed) unsorted (nicknamed .group "urn:group") =
        .ok (q, amyAndZed) ∧
      (nicknameReader.readType unsorted none p amyAndZed ++
        nicknameReader.readType unsorted none q amyAndZed).map (·.id) =
          [⟨.person, 7⟩, ⟨.person, 2⟩, ⟨.group, 7⟩, ⟨.group, 2⟩] :=
    ⟨_, _, rfl, rfl, by decide +kernel⟩
  have hread : nicknameReader.readTypes (fun _ => .ok amyAndZed) unsorted none
      nicknameReader.schemas.toList [] =
        .ok (nicknameReader.readType unsorted none p amyAndZed ++
          nicknameReader.readType unsorted none q amyAndZed) := by
    have hschemas : nicknameReader.schemas.toList =
      [nicknamed .person "urn:person", nicknamed .group "urn:group"] := rfl
    have hmerge (cs more : List Contact) :
        Sort.mergeContacts unsorted.sorting cs more = cs ++ more := Sort.mergeContacts_nil cs more
    rw [hschemas, readTypes_cons hp, readTypes_cons hq, hmerge, hmerge]
    rfl
  have hfetch : (nicknameReader.fetchTypes (constantService amyAndZed) unsorted none
      nicknameReader.schemas.toList []).Yields _ :=
    yields_fetchTypes (isSteady_constantService amyAndZed) (.inr fun _ => rfl) _ _ none []
  exact ⟨_, (hfetch ()).trans hread, hids⟩

/-- The limit falls among the groups, behind the first of them. -/
theorem gives_fetch_take_amyAndZed :
    ∃ cs, ((nicknameReader.fetch (constantService amyAndZed) unsorted).run ()).1 = .ok cs ∧
      cs.map (·.id) = [⟨.person, 7⟩, ⟨.person, 2⟩, ⟨.group, 7⟩, ⟨.group, 2⟩] ∧
      (nicknameReader.fetch (constantService amyAndZed) (unsorted.upTo 3)).Gives
        (· = cs.take 3) := by
  obtain ⟨cs, hfetch, hids⟩ := exists_fetch_amyAndZed
  refine ⟨cs, hfetch, hids, ?_⟩
  refine gives_fetch_take (isSteady_constantService amyAndZed) rfl rfl ?_ hfetch 3
  intro text table hanswer
  cases hanswer
  exact isContiguous_amyAndZed

end Reader

end ContactGraph
