import ContactGraph.Proofs.Reading.Run
import Mathlib.Data.Set.Card

/-!
# The cache over its calls

A cache that starts empty goes through calls : a resource gets a number, all is forgotten, or
resources are resolved by a resolver that answers whatever it likes. Forgetting apart, all that
changes a cache are insertions; `insertions` lists those of a run, each with the cache it is made
in. What the empty cache has and each of the two keeps, a run keeps (`IsKept.reached`).

So whatever the calls, a number stands for a resource that has it, and the two directions are
inverse as long as no two resources have one number (`iri?_reached`). When two have, the number
stands for the one that got it last, and giving one of them another number forgets what the first
number stands for, whichever of them that is. So a number that a resource has stands for none just
when some resource was taken from it since it was last given (`exists_iri?_iff`).
-/

namespace ContactGraph.IdCache

variable {c : IdCache} {x : Iri} {n : LocalId}

/-! ## Look-ups -/

theorem lookup_drop_self {κ ν : Type} [DecidableEq κ] (k : κ) (entries : List (κ × ν)) :
    (drop k entries).lookup k = none := by
  rw [List.lookup_eq_none_iff]
  intro e he
  have hne : e.1 ≠ k := of_decide_eq_true (List.mem_filter.mp he).2
  exact bne_iff_ne.mpr hne.symm

theorem lookup_drop_of_ne {κ ν : Type} [DecidableEq κ] {k k' : κ} (h : k' ≠ k)
    (entries : List (κ × ν)) : (drop k entries).lookup k' = entries.lookup k' := by
  induction entries with
  | nil => rfl
  | cons e entries ih =>
    obtain ⟨key, value⟩ := e
    by_cases hkey : key = k
    · have hdrop : drop k ((key, value) :: entries) = drop k entries :=
        List.filter_cons_of_neg (by simpa using hkey)
      have hother : (k' == key) = false := beq_eq_false_iff_ne.mpr (hkey ▸ h)
      rw [hdrop, ih, List.lookup_cons, hother]
    · have hdrop : drop k ((key, value) :: entries) = (key, value) :: drop k entries :=
        List.filter_cons_of_pos (by simpa using hkey)
      rw [hdrop, List.lookup_cons, List.lookup_cons, ih]

theorem lookup_put {κ ν : Type} [DecidableEq κ] (k k' : κ) (v : ν) (entries : List (κ × ν)) :
    (put k v entries).lookup k' = if k' = k then some v else entries.lookup k' := by
  show ((k, v) :: drop k entries).lookup k' = _
  rw [List.lookup_cons]
  by_cases hk : k' = k
  · simp [hk]
  · simp [beq_eq_false_iff_ne.mpr hk, hk, lookup_drop_of_ne hk]

/-- An insertion gives its resource its number, and no other. -/
theorem id?_insert (c : IdCache) (x y : Iri) (n : LocalId) :
    (c.insert x n).id? y = if y = x then some n else c.id? y :=
  lookup_put ..

/-- After an insertion its number stands for its resource, and the number that the resource had
before for none. -/
theorem iri?_insert (c : IdCache) (x : Iri) (m n : LocalId) :
    (c.insert x m).iri? n =
      if n = m then some x else if c.id? x = some n then none else c.iri? n := by
  rw [iri?, insert, lookup_put]
  cases c.id? x with
  | none => rfl
  | some previous =>
    dsimp only
    by_cases hn : previous = n
    · rw [← hn, lookup_drop_self, if_pos rfl]
    · have hsome : some previous ≠ some n := fun heq => hn (Option.some.inj heq)
      rw [lookup_drop_of_ne (Ne.symm hn), if_neg hsome, iri?]

/-! ## Calls -/

/-- A call that changes a cache. -/
inductive Call where
  /-- A resource gets a number. -/
  | insert (iri : Iri) (id : LocalId)
  /-- All is forgotten. -/
  | clear
  /-- Resources are resolved. -/
  | resolve (iris : List Iri) (resolver : List Iri → Except String (List (Option LocalId)))

/-- A service that resolves so, and has no rows. -/
def resolving (resolver : List Iri → Except String (List (Option LocalId))) : Service Unit where
  select _ st := (.ok [], st)
  resolve iris st := (resolver iris, st)
  canceled _ := false

/-- The cache after a call. One that fails leaves it as it is. -/
def after (c : IdCache) : Call → IdCache
  | .insert iri id => c.insert iri id
  | .clear => {}
  | .resolve iris resolver => ((c.resolve (resolving resolver) iris).run ()).1.toOption.getD c

/-- The cache that calls lead to from the empty one. -/
def reached (calls : List Call) : IdCache :=
  calls.foldl after {}

/-- A resource gets a number. -/
structure Insertion where
  /-- The cache before. -/
  cache : IdCache
  /-- The resource. -/
  iri : Iri
  /-- Its number. -/
  id : LocalId

/-- The cache after an insertion. -/
def Insertion.result (i : Insertion) : IdCache :=
  i.cache.insert i.iri i.id

/-- The insertions by which a cache learns the numbers answered for resources. -/
def lessons (c : IdCache) : List Iri → List (Option LocalId) → List Insertion
  | iri :: iris, some id :: ids => ⟨c, iri, id⟩ :: lessons (c.insert iri id) iris ids
  | _ :: iris, none :: ids => lessons c iris ids
  | _, _ => []

/-- The insertions of a call. -/
def insertionsOf (c : IdCache) : Call → List Insertion
  | .insert iri id => [⟨c, iri, id⟩]
  | .clear => []
  | .resolve iris resolver =>
    match resolver (c.missing iris) with
    | .ok ids => c.lessons (c.missing iris) ids
    | .error _ => []

/-- The insertions of calls on a cache. -/
def insertionsFrom (c : IdCache) : List Call → List Insertion
  | [] => []
  | call :: calls => c.insertionsOf call ++ insertionsFrom (c.after call) calls

/-- The insertions of calls on the empty cache. -/
def insertions (calls : List Call) : List Insertion :=
  insertionsFrom {} calls

/-- The service is asked for the resources without a number, and only when there are any. -/
theorem run_resolve {σ : Type} (c : IdCache) (s : Service σ) (iris : List Iri) (st : σ) :
    (c.resolve s iris).run st =
      if c.missing iris = [] then (.ok c, st)
      else (((s.resolve (c.missing iris) st).1.mapError Error.resolution).map
        (c.learn (c.missing iris)), (s.resolve (c.missing iris) st).2) := by
  rw [resolve]
  cases c.missing iris with
  | nil => rfl
  | cons iri rest =>
    rw [if_neg (List.cons_ne_nil iri rest)]
    exact Run.run_bind_pure ..

/-- The answers for the resources without a number are learned; a failure teaches nothing. -/
theorem getD_resolve {σ : Type} (c : IdCache) (s : Service σ) (iris : List Iri) (st : σ) :
    ((c.resolve s iris).run st).1.toOption.getD c =
      match (s.resolve (c.missing iris) st).1 with
      | .ok ids => c.learn (c.missing iris) ids
      | .error _ => c := by
  rw [run_resolve]
  split
  · rename_i hnone
    rw [hnone]
    cases (s.resolve [] st).1 <;> rfl
  · cases (s.resolve (c.missing iris) st).1 <;> rfl

theorem after_resolve (c : IdCache) (iris : List Iri)
    (resolver : List Iri → Except String (List (Option LocalId))) :
    c.after (.resolve iris resolver) =
      match resolver (c.missing iris) with
      | .ok ids => c.learn (c.missing iris) ids
      | .error _ => c :=
  getD_resolve c (resolving resolver) iris ()

/-- What is said of a cache and of the insertions that led to it, and is kept by all calls. -/
structure IsKept (P : List Insertion → IdCache → Prop) : Prop where
  /-- It holds of the empty cache. -/
  empty : P [] {}
  /-- Forgetting keeps it. -/
  clear : ∀ {ins c}, P ins c → P ins {}
  /-- An insertion keeps it. -/
  insert : ∀ {ins} {i : Insertion}, P ins i.cache → P (ins ++ [i]) i.result

namespace IsKept

variable {P : List Insertion → IdCache → Prop} {ins : List Insertion}

theorem learn (h : IsKept P) (hc : P ins c) (iris : List Iri) (ids : List (Option LocalId)) :
    P (ins ++ c.lessons iris ids) (c.learn iris ids) := by
  have hnone : P (ins ++ []) c := by rwa [List.append_nil]
  induction iris generalizing c ins ids with
  | nil => exact hnone
  | cons iri iris ih =>
    match ids with
    | [] => exact hnone
    | none :: ids => exact ih hc ids hnone
    | some id :: ids =>
      have hresult := h.insert (i := ⟨c, iri, id⟩) hc
      rw [lessons, IdCache.learn, List.append_cons]
      exact ih hresult ids (by rwa [List.append_nil])

theorem after (h : IsKept P) (hc : P ins c) (call : Call) :
    P (ins ++ c.insertionsOf call) (c.after call) := by
  cases call with
  | insert iri id => exact h.insert (i := ⟨c, iri, id⟩) hc
  | clear =>
    rw [insertionsOf, List.append_nil]
    exact h.clear hc
  | resolve iris resolver =>
    rw [insertionsOf, after_resolve]
    cases resolver (c.missing iris) with
    | ok ids => exact h.learn hc _ ids
    | error reason =>
      show P (ins ++ []) c
      rwa [List.append_nil]

theorem foldl_after (h : IsKept P) (hc : P ins c) (calls : List Call) :
    P (ins ++ c.insertionsFrom calls) (calls.foldl IdCache.after c) := by
  induction calls generalizing c ins with
  | nil => rwa [insertionsFrom, List.foldl_nil, List.append_nil]
  | cons call calls ih =>
    rw [insertionsFrom, List.foldl_cons, ← List.append_assoc]
    exact ih (h.after hc call)

/-- A run keeps what its calls keep. -/
theorem reached (h : IsKept P) (calls : List Call) : P (insertions calls) (reached calls) :=
  h.foldl_after h.empty calls

end IsKept

/-! ## Both directions -/

/-- What holds of every cache. -/
structure IsSound (c : IdCache) : Prop where
  /-- A number stands for a resource that has it. -/
  id?_of_iri? : ∀ {n x}, c.iri? n = some x → c.id? x = some n
  /-- No resource is there twice. -/
  nodup : (c.ids.map (·.1)).Nodup

/-- No two resources have one number. -/
def HasOwnIds (c : IdCache) : Prop :=
  ∀ x y n, c.id? x = some n → c.id? y = some n → x = y

theorem hasOwnIds_of_nodup (h : (c.ids.map (·.2)).Nodup) : c.HasOwnIds := by
  intro x y n hx hy
  have hmem {z : Iri} (hz : c.id? z = some n) : (z, n) ∈ c.ids := by
    obtain ⟨front, back, heq, -⟩ := List.lookup_eq_some_iff.mp hz
    simp [heq]
  exact congrArg Prod.fst (List.inj_on_of_nodup_map h (hmem hx) (hmem hy) rfl)

theorem IsSound.insert (h : c.IsSound) (x : Iri) (n : LocalId) : (c.insert x n).IsSound where
  id?_of_iri? {m y} hy := by
    rw [iri?_insert] at hy
    rw [id?_insert]
    split at hy
    · rename_i hm
      rw [if_pos (Option.some.inj hy).symm, hm]
    · split at hy
      · cases hy
      · rename_i hprevious
        have hne : y ≠ x := fun heq => hprevious (heq ▸ h.id?_of_iri? hy)
        rw [if_neg hne, h.id?_of_iri? hy]
  nodup := by
    show (x :: (c.ids.filter (·.1 ≠ x)).map (·.1)).Nodup
    refine List.nodup_cons.mpr ⟨fun hmem => ?_, h.nodup.sublist (List.filter_sublist.map _)⟩
    obtain ⟨e, he, heq⟩ := List.mem_map.mp hmem
    exact of_decide_eq_true (List.mem_filter.mp he).2 heq

theorem isKept_isSound : IsKept fun _ c => c.IsSound where
  empty := ⟨nofun, List.nodup_nil⟩
  clear _ := ⟨nofun, List.nodup_nil⟩
  insert h := h.insert _ _

theorem id?_isSome_iff : (c.id? x).isSome ↔ x ∈ c.ids.map (·.1) := by
  rw [id?, List.lookup_isSome_iff, List.mem_map]
  exact exists_congr fun e => and_congr_right fun _ => beq_iff_eq.trans eq_comm

/-- The size of a cache is the number of resources in it. -/
theorem IsSound.encard (h : c.IsSound) : {x | (c.id? x).isSome}.encard = c.size := by
  have hset : {x | (c.id? x).isSome} = ((c.ids.map (·.1)).toFinset : Set Iri) := by
    ext x
    exact id?_isSome_iff.trans List.mem_toFinset.symm
  rw [hset, Set.encard_coe_eq_coe_finsetCard, List.toFinset_card_of_nodup h.nodup, List.length_map,
    size]

/-- Where no two resources ever have one number, the number of a resource stands for it. -/
theorem isKept_iri?_of_id? : IsKept fun ins c =>
    (∀ i ∈ ins, i.result.HasOwnIds) → ∀ x n, c.id? x = some n → c.iri? n = some x where
  empty _ := nofun
  clear _ _ := nofun
  insert {ins i} h hown y m hy := by
    have hfront := h fun j hj => hown j (List.mem_append_left _ hj)
    have hresult := hown i (List.mem_append_right _ (List.mem_singleton_self i))
    have hx : i.result.id? i.iri = some i.id := by rw [Insertion.result, id?_insert, if_pos rfl]
    rw [Insertion.result] at hy ⊢
    rw [iri?_insert]
    by_cases hm : m = i.id
    · rw [if_pos hm, hresult y i.iri m hy (hm ▸ hx)]
    · rw [id?_insert] at hy
      split at hy
      · exact absurd (Option.some.inj hy).symm hm
      · rename_i hne
        -- if the resource of the insertion had the number too, both would stand behind it
        have hprevious : i.cache.id? i.iri ≠ some m := fun hprevious =>
          hne (Option.some.inj ((hfront y m hy).symm.trans (hfront i.iri m hprevious)))
        rw [if_neg hm, if_neg hprevious, hfront y m hy]

/-- Whatever the calls, a number stands for a resource that has it, and the size counts the
resources with a number. If after no insertion two resources have one number, then the number of a
resource also stands for it. -/
theorem iri?_reached (calls : List Call) :
    (∀ n x, (reached calls).iri? n = some x → (reached calls).id? x = some n) ∧
    {x | ((reached calls).id? x).isSome}.encard = (reached calls).size ∧
    ((∀ i ∈ insertions calls, i.result.HasOwnIds) →
      ∀ x n, (reached calls).id? x = some n ↔ (reached calls).iri? n = some x) := by
  have hsound := isKept_isSound.reached calls
  refine ⟨fun n x => hsound.id?_of_iri?, hsound.encard, fun hown x n => ⟨?_, hsound.id?_of_iri?⟩⟩
  exact isKept_iri?_of_id?.reached calls hown x n

/-- A resource moves to a new number, and a resolver gives the one that it had to another. -/
def moves : List Call := [
  .insert "urn:a" 1, .insert "urn:b" 2, .insert "urn:a" 3,
  .resolve ["urn:b", "urn:c", "urn:d"] fun asked => .ok (asked.map fun _ => none),
  .resolve ["urn:b", "urn:c", "urn:d"] fun _ => .ok [some 1, none, some 7]]

theorem iri?_reached_moves : (∀ i ∈ insertions moves, i.result.HasOwnIds) ∧
    ∀ x n, (reached moves).id? x = some n ↔ (reached moves).iri? n = some x := by
  have hown : ∀ i ∈ insertions moves, i.result.HasOwnIds := fun i hi =>
    have hnodup : ∀ i ∈ insertions moves, (i.result.ids.map (·.2)).Nodup := by decide
    hasOwnIds_of_nodup (hnodup i hi)
  exact ⟨hown, (iri?_reached moves).2.2 hown⟩

/-! ## Shared numbers -/

/-- A resource was taken from a number since the number was last given. -/
def WasLeft (n : LocalId) (ins : List Insertion) : Prop :=
  ∃ front i back, ins = front ++ i :: back ∧ i.cache.id? i.iri = some n ∧ ∀ j ∈ i :: back, j.id ≠ n

/-- Whether a number was left is up to the last insertion that has to do with it. -/
theorem wasLeft_concat_iff {ins : List Insertion} {i : Insertion} :
    WasLeft n (ins ++ [i]) ↔ i.id ≠ n ∧ (i.cache.id? i.iri = some n ∨ WasLeft n ins) := by
  constructor
  · rintro ⟨front, j, back, heq, hleft, hback⟩
    rcases List.eq_nil_or_concat' back with rfl | ⟨back, last, rfl⟩
    · obtain ⟨-, hij⟩ := List.append_inj' heq rfl
      cases hij
      exact ⟨hback i List.mem_cons_self, .inl hleft⟩
    · rw [← List.cons_append, ← List.append_assoc] at heq
      obtain ⟨hins, hlast⟩ := List.append_inj' heq rfl
      cases hlast
      refine ⟨hback i (by simp), .inr ⟨front, j, back, hins, hleft, fun k hk => hback k ?_⟩⟩
      rw [← List.cons_append]
      exact List.mem_append_left _ hk
  · rintro ⟨hne, hleft | ⟨front, j, back, rfl, hleft, hback⟩⟩
    · exact ⟨ins, i, [], rfl, hleft, by simpa using hne⟩
    · refine ⟨front, j, back ++ [i], by simp, hleft, fun k hk => ?_⟩
      rw [← List.cons_append, List.mem_append, List.mem_singleton] at hk
      rcases hk with hk | rfl
      · exact hback k hk
      · exact hne

/-- The number of a resource stands for none just when a resource was taken from it. -/
theorem isKept_iri?_eq_none_iff : IsKept fun ins c =>
    ∀ x n, c.id? x = some n → (c.iri? n = none ↔ WasLeft n ins) where
  empty := nofun
  clear _ := nofun
  insert {ins i} h y m hy := by
    rw [Insertion.result] at hy ⊢
    rw [iri?_insert, wasLeft_concat_iff]
    by_cases hm : m = i.id
    · rw [if_pos hm]
      exact iff_of_false (Option.some_ne_none _) fun hleft => hleft.1 hm.symm
    · rw [id?_insert] at hy
      split at hy
      · exact absurd (Option.some.inj hy).symm hm
      · rw [if_neg hm]
        split
        · rename_i hprevious
          exact iff_of_true rfl ⟨Ne.symm hm, .inl hprevious⟩
        · rename_i hprevious
          rw [h y m hy]
          exact ⟨fun hleft => ⟨Ne.symm hm, .inr hleft⟩, fun hleft => hleft.2.resolve_left hprevious⟩

/-- The number of a resource stands for a resource that has it, unless some resource was taken from
the number since it was last given. -/
theorem exists_iri?_iff (calls : List Call) (h : (reached calls).id? x = some n) :
    (∃ y, (reached calls).iri? n = some y ∧ (reached calls).id? y = some n) ↔
      ¬ WasLeft n (insertions calls) := by
  rw [← isKept_iri?_eq_none_iff.reached calls x n h]
  constructor
  · rintro ⟨y, hy, -⟩ hnone
    rw [hy] at hnone
    cases hnone
  · intro hsome
    obtain ⟨y, hy⟩ := Option.ne_none_iff_exists'.mp hsome
    exact ⟨y, hy, (isKept_isSound.reached calls).id?_of_iri? hy⟩

/-- Two resources get one number, and one of them another. -/
def twins : List Call := [.insert "urn:a" 1, .insert "urn:b" 1, .insert "urn:a" 2]

/-- The number that is left is given once more, and stands for a resource again. -/
theorem exists_iri?_twins :
    (reached (twins ++ [.insert "urn:c" 1])).id? "urn:b" = some 1 ∧
    ∃ y, (reached (twins ++ [.insert "urn:c" 1])).iri? 1 = some y ∧
      (reached (twins ++ [.insert "urn:c" 1])).id? y = some 1 := by
  have hid : (reached (twins ++ [.insert "urn:c" 1])).id? "urn:b" = some 1 := by decide
  have hlast : insertions (twins ++ [.insert "urn:c" 1]) =
      insertions twins ++ [⟨reached twins, "urn:c", 1⟩] := rfl
  refine ⟨hid, (exists_iri?_iff _ hid).mpr fun hleft => ?_⟩
  rw [hlast, wasLeft_concat_iff] at hleft
  exact hleft.1 rfl

/-- The second of the twins has the number that the first had too, but it stands for neither. -/
theorem iri?_twins_eq_none :
    (reached twins).id? "urn:b" = some 1 ∧ (reached twins).iri? 1 = none := by
  decide

end ContactGraph.IdCache
