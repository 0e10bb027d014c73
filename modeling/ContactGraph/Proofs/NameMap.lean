import ContactGraph.NameMap
import Mathlib.Data.List.Induction
import Mathlib.Data.List.Nodup

/-!
# Lookups by name

A map has one value for each of its names : its entries are what it gives
(`NameMap.get?_eq_some_iff`), it is known by what it gives (`NameMap.ext_get?`), and setting a name
changes nothing of the others (`NameMap.get?_insert`). A set is known by the names it has
(`NameSet.ext_contains`), and in a list of things with different names each is found by its own
(`find?_name_eq_some_iff`).
-/

namespace ContactGraph

/-- Of things with different names the one that is found is the one of the name. -/
theorem find?_name_eq_some_iff {α : Type} {name : α → String} {xs : List α} {k : String} {x : α}
    (h : (xs.map name).Nodup) : xs.find? (name · = k) = some x ↔ x ∈ xs ∧ name x = k := by
  have hnamed (y : α) (hy : xs.find? (name · = k) = some y) : y ∈ xs ∧ name y = k :=
    ⟨List.mem_of_find?_eq_some hy, by simpa using List.find?_some hy⟩
  refine ⟨hnamed x, fun ⟨hx, hk⟩ => ?_⟩
  have hsome : (xs.find? (name · = k)).isSome = true := by
    rw [List.find?_isSome]
    exact ⟨x, hx, decide_eq_true hk⟩
  obtain ⟨y, hy⟩ := Option.isSome_iff_exists.mp hsome
  obtain ⟨hmem, hname⟩ := hnamed y hy
  rw [hy, List.inj_on_of_nodup_map h hmem hx (hname.trans hk.symm)]

/-! ## Maps -/

namespace NameMap

variable {β : Type} {m : NameMap β} {k : String} {v : β}

theorem lookup_cons (j : String) (e : String × β) (es : List (String × β)) :
    (e :: es).lookup j = if j = e.1 then some e.2 else es.lookup j := by
  rw [List.lookup_cons]
  by_cases h : j = e.1
  · simp [h]
  · rw [if_neg h, beq_eq_false_iff_ne.mpr h]

theorem lookup_eq_some_iff {es : List (String × β)}
    (h : es.Pairwise fun a b => a.1 < b.1) : es.lookup k = some v ↔ (k, v) ∈ es := by
  induction es with
  | nil => simp
  | cons e es ih =>
    obtain ⟨hfirst, hrest⟩ := List.pairwise_cons.mp h
    rw [lookup_cons, List.mem_cons, Prod.ext_iff]
    by_cases hk : k = e.1
    · subst hk
      -- the names behind it are all greater
      have hbehind : (e.1, v) ∉ es := fun hmem => String.lt_irrefl e.1 (hfirst (e.1, v) hmem)
      simp [hbehind, eq_comm]
    · simp [hk, ih hrest]

/-- The value of a name is the one in its entry. -/
theorem get?_eq_some_iff : m.get? k = some v ↔ (k, v) ∈ m.entries :=
  lookup_eq_some_iff m.sorted

theorem lookup_insertEntry (k : String) (v : β) (j : String) (es : List (String × β)) :
    (insertEntry k v es).lookup j = if j = k then some v else es.lookup j := by
  induction es with
  | nil => rw [insertEntry, lookup_cons]
  | cons e es ih =>
    unfold insertEntry
    split
    · rw [lookup_cons]
    · split
      · rename_i heq
        subst heq
        rw [lookup_cons, lookup_cons]
        split <;> rfl
      · rename_i hne
        rw [lookup_cons, lookup_cons, ih]
        by_cases h : j = e.1
        · subst h
          rw [if_pos rfl, if_pos rfl, if_neg (Ne.symm hne)]
        · rw [if_neg h, if_neg h]

@[simp] theorem get?_insert (m : NameMap β) (k : String) (v : β) (j : String) :
    (m.insert k v).get? j = if j = k then some v else m.get? j :=
  lookup_insertEntry k v j m.entries

@[simp] theorem get?_empty (k : String) : (∅ : NameMap β).get? k = none :=
  rfl

theorem mem_values_iff : v ∈ m.values ↔ ∃ k, m.get? k = some v := by
  simp only [values, List.mem_map, Prod.exists, exists_eq_right, get?_eq_some_iff]

theorem nodup_entries (m : NameMap β) : m.entries.Nodup := by
  refine m.sorted.imp fun {a b} hlt heq => ?_
  rw [heq] at hlt
  exact String.lt_irrefl b.1 hlt

/-- Maps that give the same are the same. -/
theorem ext_get? {a b : NameMap β} (h : ∀ k, a.get? k = b.get? k) : a = b := by
  have hmem : ∀ e, e ∈ a.entries ↔ e ∈ b.entries := fun (k, v) => by
    rw [← get?_eq_some_iff, ← get?_eq_some_iff, h]
  have hperm := (List.perm_ext_iff_of_nodup a.nodup_entries b.nodup_entries).mpr hmem
  refine ext (hperm.eq_of_pairwise (fun x y _ _ hxy hyx => ?_) a.sorted b.sorted)
  exact absurd (String.lt_trans hxy hyx) (String.lt_irrefl _)

/-- Where entries agree with what a function gives for their names, so does the map of them. -/
theorem get?_ofList {g : String → Option β} {es : List (String × β)}
    (h : ∀ e ∈ es, g e.1 = some e.2) (k : String) :
    (ofList es).get? k = if k ∈ es.map (·.1) then g k else none := by
  induction es using List.reverseRecOn with
  | nil => rfl
  | append_singleton es e ih =>
    rw [List.forall_mem_append, List.forall_mem_singleton] at h
    have hlast : ofList (es ++ [e]) = (ofList es).insert e.1 e.2 := List.foldl_append ..
    rw [hlast, get?_insert, ih h.1]
    simp only [List.map_append, List.mem_append, List.map_singleton, List.mem_singleton]
    by_cases hk : k = e.1
    · rw [if_pos hk, if_pos (.inr hk), hk, h.2]
    · simp only [hk, if_false, or_false]

end NameMap

/-! ## Sets of names -/

namespace NameSet

variable {s t : NameSet} {names : List String} {name : String}

theorem contains_add (s : NameSet) (added name : String) :
    (s.add added).contains name = true ↔ name = added ∨ s.contains name = true := by
  rw [contains, contains, add, NameMap.get?_insert]
  by_cases h : name = added <;> simp [h]

theorem contains_ofNames_iff : (ofNames names).contains name = true ↔ name ∈ names := by
  have hadded (s : NameSet) :
      (names.foldl add s).contains name = true ↔ name ∈ names ∨ s.contains name = true := by
    induction names generalizing s with
    | nil => simp
    | cons n names ih =>
      rw [List.foldl_cons, ih, contains_add, List.mem_cons, or_left_comm, or_assoc]
  exact (hadded ∅).trans (or_iff_left Bool.false_ne_true)

/-- Sets of the same names are the same. -/
theorem ext_contains (h : ∀ name, s.contains name = true ↔ t.contains name = true) : s = t := by
  refine NameMap.ext_get? fun name => ?_
  have hname := h name
  simp only [contains] at hname
  cases hs : s.get? name <;> cases ht : t.get? name <;> simp [hs, ht] at hname ⊢

theorem mem_keys_iff : name ∈ s.keys ↔ s.contains name = true := by
  rw [NameMap.keys, contains, Option.isSome_iff_exists, List.mem_map]
  simp [NameMap.get?_eq_some_iff]

theorem isEmpty_eq_false_iff : s.isEmpty = false ↔ ∃ name, s.contains name = true := by
  simp only [← mem_keys_iff, NameMap.keys, NameMap.isEmpty,
    List.isEmpty_eq_false_iff_exists_mem, List.mem_map]
  exact ⟨fun ⟨e, he⟩ => ⟨e.1, e, he, rfl⟩, fun ⟨_, e, he, _⟩ => ⟨e, he⟩⟩

end NameSet

end ContactGraph
