/-!
# Maps keyed by name

A map from names to values, held as entries in increasing order of their names, so that two maps
with the same entries are equal. `insert` replaces the value of a name that is there already. A
`NameSet` is a map that only has names.
-/

namespace ContactGraph

/-- Entries in strictly increasing order of their names. -/
structure NameMap (β : Type) where
  /-- The entries. -/
  entries : List (String × β)
  /-- Each name comes before the names behind it. -/
  sorted : entries.Pairwise (fun a b => a.1 < b.1)

namespace NameMap

variable {β : Type}

/-- The entries with `k` bound to `v`. -/
def insertEntry (k : String) (v : β) : List (String × β) → List (String × β)
  | [] => [(k, v)]
  | e :: es =>
    if k < e.1 then (k, v) :: e :: es
    else if k = e.1 then (k, v) :: es
    else e :: insertEntry k v es

/-- An inserted entry is the new one or one that was there. -/
theorem mem_insertEntry {k : String} {v : β} {e : String × β} {es : List (String × β)}
    (h : e ∈ insertEntry k v es) : e = (k, v) ∨ e ∈ es := by
  induction es with
  | nil => simpa [insertEntry] using h
  | cons d es ih =>
    unfold insertEntry at h
    split at h
    · simpa using h
    · split at h
      · rcases List.mem_cons.1 h with h | h
        · exact .inl h
        · exact .inr (List.mem_cons_of_mem _ h)
      · rcases List.mem_cons.1 h with h | h
        · exact .inr (h ▸ List.mem_cons_self)
        · exact (ih h).imp id (List.mem_cons_of_mem _)

/-- A name neither before nor equal to another comes after it. -/
theorem lt_of_not_lt_of_ne {a b : String} (h : ¬ a < b) (hne : a ≠ b) : b < a := by
  rcases Decidable.em (b < a) with hlt | hlt
  · exact hlt
  · exact absurd (String.le_antisymm (String.not_lt.1 hlt) (String.not_lt.1 h)) hne

/-- Insertion keeps the entries in order. -/
theorem sorted_insertEntry (k : String) (v : β) {es : List (String × β)}
    (h : es.Pairwise (fun a b => a.1 < b.1)) :
    (insertEntry k v es).Pairwise (fun a b => a.1 < b.1) := by
  induction es with
  | nil => simp [insertEntry]
  | cons e es ih =>
    have hes := List.pairwise_cons.1 h
    unfold insertEntry
    split
    · rename_i hk
      refine List.pairwise_cons.2 ⟨fun d hd => ?_, h⟩
      rcases List.mem_cons.1 hd with rfl | hd
      · exact hk
      · exact String.lt_trans hk (hes.1 d hd)
    · rename_i hk
      split
      · rename_i heq
        exact List.pairwise_cons.2 ⟨fun d hd => heq ▸ hes.1 d hd, hes.2⟩
      · rename_i hne
        refine List.pairwise_cons.2 ⟨fun d hd => ?_, ih hes.2⟩
        rcases mem_insertEntry hd with rfl | hd
        · exact lt_of_not_lt_of_ne hk hne
        · exact hes.1 d hd

/-- The map without entries. -/
def empty : NameMap β := ⟨[], .nil⟩

instance : EmptyCollection (NameMap β) := ⟨empty⟩

instance : Inhabited (NameMap β) := ⟨empty⟩

/-- The value of a name. -/
def get? (m : NameMap β) (k : String) : Option β :=
  m.entries.lookup k

/-- The map with `k` bound to `v`. -/
def insert (m : NameMap β) (k : String) (v : β) : NameMap β :=
  ⟨insertEntry k v m.entries, sorted_insertEntry k v m.sorted⟩

/-- The map without the name `k`. -/
def erase (m : NameMap β) (k : String) : NameMap β :=
  ⟨m.entries.filter (·.1 ≠ k), m.sorted.filter _⟩

/-- The map of a list of entries; the last entry of a name wins. -/
def ofList (es : List (String × β)) : NameMap β :=
  es.foldl (fun m e => m.insert e.1 e.2) ∅

/-- The names, in increasing order. -/
def keys (m : NameMap β) : List String :=
  m.entries.map (·.1)

/-- The values, in the order of their names. -/
def values (m : NameMap β) : List β :=
  m.entries.map (·.2)

/-- Whether there is no entry. -/
def isEmpty (m : NameMap β) : Bool :=
  m.entries.isEmpty

instance [BEq β] : BEq (NameMap β) := ⟨fun a b => a.entries == b.entries⟩

/-- Maps with the same entries are equal. -/
theorem ext {a b : NameMap β} (h : a.entries = b.entries) : a = b := by
  cases a
  cases b
  cases h
  rfl

end NameMap

/-- A set of names. -/
abbrev NameSet := NameMap Unit

namespace NameSet

/-- The set with one more name. -/
def add (s : NameSet) (name : String) : NameSet :=
  s.insert name ()

/-- The set of the names in a list. -/
def ofNames (names : List String) : NameSet :=
  names.foldl add ∅

/-- Whether a name is in the set. -/
def contains (s : NameSet) (name : String) : Bool :=
  (s.get? name).isSome

end NameSet

end ContactGraph
