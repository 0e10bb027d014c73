import ContactGraph.Proofs.NameMap
import ContactGraph.Proofs.Reading.IdCache
import ContactGraph.Reading.Reader

/-!
# Resolved resources

Resolving asks for the resources without a number, all at once, and not at all when each has one
(`IdCache.run_resolve`). Of a resource that is asked for more than once the last number answered is
learned (`IdCache.id?_learn`); what was known is not asked for, so that it stays as it was
(`IdCache.Learned`).

A reader that refreshes its cache starts from an empty one, and then knows just the numbers of the
resources that its schemas mention (`Reader.asksOnce_refresh`). Where these have different numbers,
so have the resources of each cache on the way there (`IdCache.id?_of_mem_lessons`), and each number
leads back to its resource (`IdCache.iri?_learn_iff`).
-/

namespace ContactGraph

variable {σ : Type}

/-! ## What is asked -/

/-- The service with a record of the resources that it is asked for. -/
def Service.recording (s : Service σ) : Service (σ × List (List Iri)) where
  select text st :=
    let (answer, st') := s.select text st.1
    (answer, st', st.2)
  resolve iris st :=
    let (answer, st') := s.resolve iris st.1
    (answer, st', st.2 ++ [iris])
  canceled st := s.canceled st.1

namespace IdCache

variable {c : IdCache} {asked : List Iri} {ids : List (Option LocalId)} {x : Iri} {n : LocalId}

/-! ## What is learned -/

/-- The numbers answered for a resource, in order. Answers behind the last question are ignored. -/
def answersTo (x : Iri) (asked : List Iri) (ids : List (Option LocalId)) : List LocalId :=
  (asked.zip ids).filterMap fun (y, id) => if y = x then id else none

theorem getLast?_answersTo_cons (x y : Iri) (asked : List Iri) (id : Option LocalId)
    (ids : List (Option LocalId)) :
    (answersTo x (y :: asked) (id :: ids)).getLast? =
      ((answersTo x asked ids).getLast?).or (if y = x then id else none) := by
  rw [answersTo, List.zip_cons_cons, List.filterMap_cons, ← answersTo]
  dsimp only
  cases (if y = x then id else none) with
  | none => rw [Option.or_none]
  | some n =>
    rw [List.getLast?_cons]
    cases (answersTo x asked ids).getLast? <;> rfl

/-- The last number answered for a resource is learned. -/
theorem id?_learn (c : IdCache) (asked : List Iri) (ids : List (Option LocalId)) (x : Iri) :
    (c.learn asked ids).id? x = ((answersTo x asked ids).getLast?).or (c.id? x) := by
  induction asked generalizing c ids with
  | nil => rfl
  | cons y asked ih =>
    match ids with
    | [] => rfl
    | none :: ids => rw [learn, ih, getLast?_answersTo_cons, ite_self, Option.or_none]
    | some id :: ids =>
      rw [learn, ih, id?_insert, getLast?_answersTo_cons, Option.or_assoc]
      by_cases hy : x = y
      · rw [if_pos hy, if_pos hy.symm, Option.some_or]
      · rw [if_neg hy, if_neg (Ne.symm hy), Option.none_or]

theorem answersTo_of_not_mem (h : x ∉ asked) (ids : List (Option LocalId)) :
    answersTo x asked ids = [] := by
  rw [answersTo, List.filterMap_eq_nil_iff]
  rintro ⟨y, id⟩ hy
  refine if_neg fun heq => h ?_
  exact heq ▸ (List.of_mem_zip hy).1

/-- Where a function gives the answers, a resource has what the function gives for it. -/
theorem getLast?_answersTo_map (known : Iri → Option LocalId) (h : x ∈ asked) :
    (answersTo x asked (asked.map known)).getLast? = known x := by
  induction asked with
  | nil => exact absurd h List.not_mem_nil
  | cons y asked ih =>
    rw [List.map_cons, getLast?_answersTo_cons]
    by_cases hmem : x ∈ asked
    · rw [ih hmem]
      split
      · rename_i hy
        rw [hy, Option.or_self]
      · rw [Option.or_none]
    · obtain rfl := (List.mem_cons.mp h).resolve_right hmem
      rw [answersTo_of_not_mem hmem, if_pos rfl, List.getLast?_nil, Option.none_or]

/-- What a cache knows once it has learned answers for resources. -/
structure Learned (c : IdCache) (asked : List Iri) (ids : List (Option LocalId)) (c' : IdCache) :
    Prop where
  /-- What was known still is. -/
  kept : ∀ x n, c.id? x = some n → c'.id? x = some n
  /-- A resource that was asked for has the last number answered for it, if there is one. -/
  learned : ∀ x ∈ asked, c'.id? x = (answersTo x asked ids).getLast?
  /-- Nothing else changes. -/
  others : ∀ x, x ∉ asked → c'.id? x = c.id? x

theorem mem_missing_iff {iris : List Iri} : x ∈ c.missing iris ↔ x ∈ iris ∧ c.id? x = none := by
  simp [missing]

/-- Answers for resources without a number change no other. -/
theorem learned_learn (c : IdCache) (iris : List Iri) (ids : List (Option LocalId)) :
    c.Learned (c.missing iris) ids (c.learn (c.missing iris) ids) where
  kept x n hx := by
    have hknown : x ∉ c.missing iris := fun hmem => by
      rw [(mem_missing_iff.mp hmem).2] at hx
      cases hx
    rw [id?_learn, answersTo_of_not_mem hknown, List.getLast?_nil, Option.none_or, hx]
  learned x hx := by rw [id?_learn, (mem_missing_iff.mp hx).2, Option.or_none]
  others x hx := by rw [id?_learn, answersTo_of_not_mem hx, List.getLast?_nil, Option.none_or]

/-- Answers are learned, also when nothing is asked. -/
theorem resolve_of_ok {s : Service σ} {iris : List Iri} {st : σ}
    (h : (s.resolve (c.missing iris) st).1 = .ok ids) :
    ((c.resolve s iris).run st).1 = .ok (c.learn (c.missing iris) ids) := by
  rw [run_resolve]
  split
  · rename_i hnone
    rw [hnone]
    rfl
  · rw [h]
    rfl

/-- How resources are resolved. -/
structure AsksOnce (c : IdCache) (s : Service σ) (iris : List Iri) (st : σ) : Prop where
  /-- The resources without a number are asked for, all at once and in order, and when there are
  none nothing is asked. -/
  asks : ∀ log, (c.resolve s.recording iris).run (st, log) = (((c.resolve s iris).run st).1,
    ((c.resolve s iris).run st).2, log ++ if c.missing iris = [] then [] else [c.missing iris])
  /-- When each resource has a number the cache stays as it is. -/
  ok_of_known : c.missing iris = [] → (c.resolve s iris).run st = (.ok c, st)
  /-- A failure is reported, and the cache stays as it is. -/
  error : ∀ reason, c.missing iris ≠ [] → (s.resolve (c.missing iris) st).1 = .error reason →
    ((c.resolve s iris).run st).1 = .error (.resolution reason) ∧
      c.after (.resolve iris fun asked => (s.resolve asked st).1) = c
  /-- An answer is learned. -/
  ok : ∀ ids, (s.resolve (c.missing iris) st).1 = .ok ids →
    ∃ c', ((c.resolve s iris).run st).1 = .ok c' ∧ c.Learned (c.missing iris) ids c'

theorem asksOnce (c : IdCache) (s : Service σ) (iris : List Iri) (st : σ) :
    c.AsksOnce s iris st where
  asks log := by
    rw [run_resolve, run_resolve]
    split
    · rw [List.append_nil]
    · rfl
  ok_of_known h := by rw [run_resolve, if_pos h]
  error reason hne hreason := by
    rw [run_resolve, if_neg hne, after_resolve, hreason]
    exact ⟨rfl, rfl⟩
  ok ids hids := ⟨_, resolve_of_ok hids, c.learned_learn iris ids⟩

/-! ## Numbers of their own -/

/-- On the way to the answers of a function, a cache knows what it knew and what the function
gives. -/
theorem id?_of_mem_lessons {known : Iri → Option LocalId} {i : Insertion} {y : Iri} {m : LocalId}
    (hi : i ∈ c.lessons asked (asked.map known)) (hy : i.result.id? y = some m) :
    c.id? y = some m ∨ y ∈ asked ∧ known y = some m := by
  induction asked generalizing c with
  | nil => cases hi
  | cons x asked ih =>
    rw [List.map_cons] at hi
    cases hx : known x with
    | none =>
      rw [hx] at hi
      exact (ih hi).imp_right fun h => ⟨List.mem_cons_of_mem x h.1, h.2⟩
    | some n =>
      rw [hx, lessons] at hi
      have hfirst {z : Iri} (hz : (c.insert x n).id? z = some m) :
          c.id? z = some m ∨ z ∈ x :: asked ∧ known z = some m := by
        rw [id?_insert] at hz
        split at hz
        · rename_i heq
          exact .inr ⟨heq ▸ List.mem_cons_self, by rw [heq, hx, hz]⟩
        · exact .inl hz
      rcases List.mem_cons.mp hi with rfl | hi
      · exact hfirst hy
      · rcases ih hi with hc | ⟨hmem, hknown⟩
        · exact hfirst hc
        · exact .inr ⟨List.mem_cons_of_mem x hmem, hknown⟩

/-- Where a function gives different resources different numbers, an empty cache that learns them
leads back from each number to its resource. -/
theorem iri?_learn_iff {known : Iri → Option LocalId}
    (hown : ∀ x ∈ asked, ∀ y ∈ asked, ∀ n, known x = some n → known y = some n → x = y) :
    (learn {} asked (asked.map known)).iri? n = some x ↔
      (learn {} asked (asked.map known)).id? x = some n := by
  have hkept := isKept_iri?_of_id?.learn isKept_iri?_of_id?.empty asked (asked.map known)
  have hsound := @IsKept.learn _ _ [] isKept_isSound isKept_isSound.empty asked (asked.map known)
  refine ⟨hsound.id?_of_iri?, hkept (fun i hi y z m hy hz => ?_) x n⟩
  obtain ⟨hymem, hy⟩ := (id?_of_mem_lessons hi hy).resolve_left nofun
  obtain ⟨hzmem, hz⟩ := (id?_of_mem_lessons hi hz).resolve_left nofun
  exact hown y hymem z hzmem m hy hz

end IdCache

/-! ## Schemas -/

/-- A resource that a schema mentions : a class of contacts, an instance of a field, or a class by
which a field tells sub-types. -/
inductive Schema.Mentions (s : Schema) : Iri → Prop
  /-- A class of contacts. -/
  | ofClass {x : Iri} (hx : x ∈ s.classes) : s.Mentions x
  /-- An instance of a field. -/
  | ofInstance {d : DetailDefinition} {f : FieldDefinition} {i : Labelled} (hd : d ∈ s.details)
      (hf : f ∈ d.fields) (hi : i ∈ f.instances) : s.Mentions i.iri
  /-- A sub-type. -/
  | ofSubType {d : DetailDefinition} {f : FieldDefinition} {classes : List Labelled} {t : Labelled}
      (hd : d ∈ s.details) (hf : f ∈ d.fields) (hsub : f.subTypes = some (.byClass classes))
      (ht : t ∈ classes) : s.Mentions t.iri

theorem Schema.mem_resources_iff {s : Schema} {x : Iri} : x ∈ s.resources ↔ s.Mentions x := by
  rw [resources, NameSet.mem_keys_iff, NameSet.contains_ofNames_iff, List.mem_append,
    List.mem_flatMap]
  constructor
  · rintro (hx | ⟨d, hd, hx⟩)
    · exact .ofClass hx
    · obtain ⟨f, hf, hx⟩ := List.mem_flatMap.mp hx
      rcases List.mem_append.mp hx with hx | hx
      · obtain ⟨i, hi, rfl⟩ := List.mem_map.mp hx
        exact .ofInstance hd hf hi
      · split at hx
        · rename_i hsub
          obtain ⟨t, ht, rfl⟩ := List.mem_map.mp hx
          exact .ofSubType hd hf hsub ht
        · cases hx
  · rintro (hx | ⟨hd, hf, hi⟩ | ⟨hd, hf, hsub, ht⟩)
    · exact .inl hx
    · exact .inr ⟨_, hd, List.mem_flatMap.mpr
        ⟨_, hf, List.mem_append_left _ (List.mem_map_of_mem hi)⟩⟩
    · refine .inr ⟨_, hd, List.mem_flatMap.mpr ⟨_, hf, List.mem_append_right _ ?_⟩⟩
      rw [hsub]
      exact List.mem_map_of_mem ht

namespace Reader

/-- A resource that a schema of the reader mentions. -/
def Mentions (r : Reader) (x : Iri) : Prop :=
  ∃ schema ∈ r.schemas.toList, schema.Mentions x

variable {r : Reader} {s : Service σ} {st : σ} {known : Iri → Option LocalId}

theorem mem_resources_iff {x : Iri} : x ∈ r.resources ↔ r.Mentions x := by
  simp only [resources, List.mem_flatMap, Schema.mem_resources_iff, Mentions]

theorem run_refresh (r : Reader) (s : Service σ) (st : σ) {ids : IdCache}
    (h : ((IdCache.resolve {} s r.resources).run st).1 = .ok ids) :
    ((r.refresh s).run st).1 = ({ r with ids := ids }, .ok ()) := by
  have hrun : StateT.run (IdCache.resolve {} s r.resources).run st =
      (.ok ids, ((IdCache.resolve {} s r.resources).run st).2) :=
    Prod.ext h rfl
  rw [refresh, StateT.run_bind, hrun]
  rfl

/-- The cache knows what a function gives for the resources that a reader's schemas mention. -/
structure Knows (r : Reader) (known : Iri → Option LocalId) (ids : IdCache) : Prop where
  /-- What the schemas mention has the number that the function gives, if there is one. -/
  mentioned : ∀ x, r.Mentions x → ids.id? x = known x
  /-- Nothing else has a number. -/
  others : ∀ x, ¬ r.Mentions x → ids.id? x = none
  /-- Where no two of the resources have one number, each number leads back. -/
  back : (∀ x y n, r.Mentions x → r.Mentions y → known x = some n → known y = some n → x = y) →
    ∀ x n, ids.iri? n = some x ↔ r.Mentions x ∧ known x = some n

theorem knows_learn (r : Reader) (known : Iri → Option LocalId) :
    r.Knows known (IdCache.learn {} r.resources (r.resources.map known)) := by
  have hmentioned (x : Iri) (hx : r.Mentions x) :
      (IdCache.learn {} r.resources (r.resources.map known)).id? x = known x := by
    rw [IdCache.id?_learn, IdCache.getLast?_answersTo_map known (mem_resources_iff.mpr hx)]
    exact Option.or_none
  have hothers (x : Iri) (hx : ¬ r.Mentions x) :
      (IdCache.learn {} r.resources (r.resources.map known)).id? x = none := by
    rw [IdCache.id?_learn, IdCache.answersTo_of_not_mem (mt mem_resources_iff.mp hx)]
    rfl
  refine ⟨hmentioned, hothers, fun hown x n => ?_⟩
  rw [IdCache.iri?_learn_iff fun x hx y hy n =>
    hown x y n (mem_resources_iff.mp hx) (mem_resources_iff.mp hy)]
  by_cases hx : r.Mentions x
  · rw [hmentioned x hx, and_iff_right hx]
  · rw [hothers x hx]
    exact iff_of_false (Option.some_ne_none n).symm fun h => hx h.1

/-- Resolving asks a service at most once, for just the resources without a number, and learns just
what is answered, whatever the cache and the answer. So once a reader has refreshed its cache from a
service that knows resources by a function, whatever it knew before, it knows what the function
gives for the resources of its schemas and nothing else. -/
theorem asksOnce_refresh (s : Service σ) (st : σ) :
    (∀ (c : IdCache) (iris : List Iri), c.AsksOnce s iris st) ∧
    ∀ (r : Reader) (known : Iri → Option LocalId),
      (s.resolve r.resources st).1 = .ok (r.resources.map known) →
      ∃ ids, ((r.refresh s).run st).1 = ({ r with ids := ids }, .ok ()) ∧ r.Knows known ids := by
  refine ⟨fun c iris => c.asksOnce s iris st, fun r known hknown => ?_⟩
  have hall : IdCache.missing {} r.resources = r.resources :=
    List.filter_eq_self.mpr fun _ _ => rfl
  have hanswer : (s.resolve (IdCache.missing {} r.resources) st).1 =
      .ok (r.resources.map known) := by rw [hall, hknown]
  have hresolve := IdCache.resolve_of_ok hanswer
  rw [hall] at hresolve
  exact ⟨_, run_refresh r s st hresolve, r.knows_learn known⟩

/-- A reader of persons and groups that shares a class between them, and knows a number of nothing
that they mention. -/
def staleReader : Reader where
  settings := {}
  schemas := {
    person := some {
      type := .person, classes := ["urn:contact"]
      details := [{
        name := "Gender", unique := true, dependencies := []
        fields := [{
          name := "Gender", type := .text
          instances := [⟨"urn:male", "Male"⟩, ⟨"urn:female", "Female"⟩] }] }] }
    group := some { type := .group, classes := ["urn:group", "urn:contact"] }
    person_type := by simp
    group_type := by simp }
  ids := IdCache.insert {} "urn:old" 2

/-- The numbers that a store has for some resources. -/
def registry : IdCache :=
  { ids := [("urn:old", 1), ("urn:male", 2), ("urn:female", 3), ("urn:contact", 4)] }

/-- The group class is unknown to the store, and what was known is forgotten. -/
theorem asksOnce_refresh_stale : ∃ ids,
    ((staleReader.refresh (IdCache.resolving fun asked => .ok (asked.map registry.id?))).run ()).1 =
      ({ staleReader with ids := ids }, .ok ()) ∧
    ids.id? "urn:male" = some 2 ∧ ids.iri? 2 = some "urn:male" ∧ ids.id? "urn:group" = none ∧
    ids.id? "urn:old" = none := by
  obtain ⟨ids, hrefresh, hknows⟩ := (asksOnce_refresh (IdCache.resolving fun asked =>
    .ok (asked.map registry.id?)) ()).2 staleReader registry.id? rfl
  have hresources : staleReader.resources =
      ["urn:contact", "urn:female", "urn:male", "urn:contact", "urn:group"] := by
    decide +kernel
  have hmale : staleReader.Mentions "urn:male" := mem_resources_iff.mp (by simp [hresources])
  have hgroup : staleReader.Mentions "urn:group" := mem_resources_iff.mp (by simp [hresources])
  have hold : ¬ staleReader.Mentions "urn:old" := fun h =>
    absurd (mem_resources_iff.mpr h) (by simp [hresources])
  have hown := IdCache.hasOwnIds_of_nodup (c := registry) (by decide)
  exact ⟨ids, hrefresh, hknows.mentioned _ hmale,
    (hknows.back (fun x y n _ _ => hown x y n) _ _).mpr ⟨hmale, rfl⟩, hknows.mentioned _ hgroup,
    hknows.others _ hold⟩

end Reader

end ContactGraph
