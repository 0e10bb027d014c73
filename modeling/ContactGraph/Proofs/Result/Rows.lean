import ContactGraph.Proofs.Result.Identity
import Mathlib.Data.List.Induction
import Mathlib.Data.List.Nodup

/-!
# What a result tells

The contacts of a result are those whose ids stand in its rows, each once and in the order of their
first rows (`idsIn`), and of each contact a result tells what the rows of its id tell (`contactOf`).
`told` puts the two together; reading rows one after the other, with the contacts in one list and
their places in another, comes to just that (`readRows_eq_told`). So the rows of one contact have no
part in another (`gather_rowsOf`). With a limit, what is told is what the rows in front of the first
contact too many tell (`readRows_limit`), so that a limit cuts the contacts off when the rows of
each stand together (`readRows_contiguous`).
-/

namespace ContactGraph

/-- In a list without repetition each element has its own place. -/
theorem lookup_zipIdx_reverse {ids : List LocalId} (h : ids.Nodup) {k : Nat} (hk : k < ids.length) :
    ids.zipIdx.reverse.lookup ids[k] = some k := by
  have hmem : (ids[k], k) ∈ ids.zipIdx.reverse :=
    List.mem_reverse.mpr (List.mk_mem_zipIdx_iff_getElem?.mpr (List.getElem?_eq_getElem hk))
  obtain ⟨front, back, hsplit⟩ := List.append_of_mem hmem
  have hkeys : (ids.zipIdx.reverse.map (·.1)).Nodup := by
    rw [List.map_reverse, List.zipIdx_map_fst]
    exact (List.reverse_perm ids).nodup_iff.mpr h
  rw [hsplit, List.map_append, List.map_cons, List.nodup_append] at hkeys
  rw [List.lookup_eq_some_iff]
  exact ⟨front, back, hsplit, fun p hp => bne_iff_ne.mpr fun heq =>
    hkeys.2.2 p.1 (List.mem_map_of_mem hp) ids[k] List.mem_cons_self heq.symm⟩

/-- What is not in a list has no place. -/
theorem lookup_zipIdx_reverse_eq_none {ids : List LocalId} {id : LocalId} (h : id ∉ ids) :
    ids.zipIdx.reverse.lookup id = none := by
  rw [List.lookup_eq_none_iff]
  intro p hp
  have hmem : p.1 ∈ ids := by
    rw [← List.zipIdx_map_fst 0 ids]
    exact List.mem_map_of_mem (List.mem_reverse.mp hp)
  exact bne_iff_ne.mpr fun heq => h (heq ▸ hmem)

theorem modify_concat_length {α : Type} (xs : List α) (x : α) (f : α → α) :
    (xs ++ [x]).modify xs.length f = xs ++ [f x] := by
  induction xs with
  | nil => rfl
  | cons y xs ih =>
    rw [List.cons_append, List.length_cons, List.modify_succ_cons, ih, List.cons_append]

/-- A further element comes last among those that are left, unless it is there. -/
theorem eraseDups_concat {α : Type} [BEq α] [LawfulBEq α] [DecidableEq α] (xs : List α) (x : α) :
    (xs ++ [x]).eraseDups = if x ∈ xs then xs.eraseDups else xs.eraseDups ++ [x] := by
  rw [List.eraseDups_append]
  split
  · rename_i hmem
    rw [show [x].removeAll xs = [] by simpa [List.removeAll] using hmem]
    exact List.append_nil _
  · rename_i hmem
    rw [show [x].removeAll xs = [x] by simpa [List.removeAll] using hmem]
    rfl

theorem nodup_eraseDups {α : Type} [BEq α] [LawfulBEq α] [DecidableEq α] (xs : List α) :
    xs.eraseDups.Nodup := by
  induction xs using List.reverseRecOn with
  | nil => exact List.nodup_nil
  | append_singleton xs x ih =>
    rw [eraseDups_concat]
    split
    · exact ih
    · rename_i hmem
      refine List.nodup_append.mpr ⟨ih, List.pairwise_singleton _ _, fun a ha b hb hab => hmem ?_⟩
      rwa [← List.mem_singleton.mp hb, ← hab, ← List.mem_eraseDups]

namespace Result

open Query

variable {frame : Frame} {plan : Plan} {row : Row} {table : Table} {id : LocalId}

/-! ## Ids and rows of a table -/

/-- The ids in a table, in the order of their first rows. -/
def idsIn (table : Table) : List LocalId :=
  (table.filterMap (·.id? idColumn)).eraseDups

/-- The rows of one id, in order. -/
def rowsOf (id : LocalId) (table : Table) : Table :=
  table.filter fun row => row.id? idColumn = some id

theorem mem_idsIn_iff : id ∈ idsIn table ↔ ∃ row ∈ table, row.id? idColumn = some id := by
  rw [idsIn, List.mem_eraseDups, List.mem_filterMap]

theorem idsIn_concat_of_none (h : row.id? idColumn = none) :
    idsIn (table ++ [row]) = idsIn table := by
  simp [idsIn, h]

theorem idsIn_concat (h : row.id? idColumn = some id) :
    idsIn (table ++ [row]) = if id ∈ idsIn table then idsIn table else idsIn table ++ [id] := by
  simp only [idsIn, List.filterMap_append, List.filterMap_cons, List.filterMap_nil, h,
    eraseDups_concat, List.mem_eraseDups]

theorem nodup_idsIn (table : Table) : (idsIn table).Nodup :=
  nodup_eraseDups _

theorem rowsOf_concat_self (h : row.id? idColumn = some id) :
    rowsOf id (table ++ [row]) = rowsOf id table ++ [row] := by
  simp [rowsOf, h]

theorem rowsOf_concat_of_ne (h : row.id? idColumn ≠ some id) :
    rowsOf id (table ++ [row]) = rowsOf id table := by
  simp [rowsOf, h]

/-- An id without rows has none. -/
theorem rowsOf_eq_nil (h : id ∉ idsIn table) : rowsOf id table = [] := by
  rw [rowsOf, List.filter_eq_nil_iff]
  exact fun row hrow hid => h (mem_idsIn_iff.mpr ⟨row, hrow, of_decide_eq_true hid⟩)

/-! ## Reading rows -/

/-- The contact of an id that rows tell of. -/
def contactOf (frame : Frame) (plan : Plan) (id : LocalId) (rows : Table) : Contact :=
  rows.foldl (fun c row => addRow frame plan row c) { id := ⟨plan.schema.type, id⟩ }

/-- What a table tells : of each id in it what the rows of the id tell. -/
def told (frame : Frame) (plan : Plan) (table : Table) : Gathered where
  contacts := (idsIn table).map fun id => contactOf frame plan id (rowsOf id table)
  places := (idsIn table).zipIdx.reverse
  ids := idsIn table

theorem contactOf_id (frame : Frame) (plan : Plan) (id : LocalId) (rows : Table) :
    (contactOf frame plan id rows).id = ⟨plan.schema.type, id⟩ :=
  foldl_id (fun c row => addRow_id frame plan row c) rows _

theorem contactOf_localId (frame : Frame) (plan : Plan) (id : LocalId) (rows : Table) :
    (contactOf frame plan id rows).localId = id := by
  rw [Contact.localId, contactOf_id]

theorem contactOf_concat (rows : Table) :
    contactOf frame plan id (rows ++ [row]) =
      addRow frame plan row (contactOf frame plan id rows) :=
  List.foldl_append ..

theorem told_places : (told frame plan table).places = (idsIn table).zipIdx.reverse :=
  rfl

/-- A row without an id tells nothing. -/
theorem told_concat_of_none (h : row.id? idColumn = none) :
    told frame plan (table ++ [row]) = told frame plan table := by
  have hrows : ∀ id, rowsOf id (table ++ [row]) = rowsOf id table := fun id =>
    rowsOf_concat_of_ne (by rw [h]; exact Option.some_ne_none id |>.symm)
  simp only [told, idsIn_concat_of_none h, hrows]

/-- A row of an id that is there tells something about the contact at the place of the id. -/
theorem told_concat_of_getElem {k : Nat} (hk : k < (idsIn table).length)
    (h : row.id? idColumn = some (idsIn table)[k]) :
    told frame plan (table ++ [row]) =
      (told frame plan table).change k (addRow frame plan row) := by
  have hids : idsIn (table ++ [row]) = idsIn table := by
    rw [idsIn_concat h, if_pos (List.getElem_mem hk)]
  have hcontacts :
      (idsIn table).map (fun id => contactOf frame plan id (rowsOf id (table ++ [row]))) =
        ((idsIn table).map fun id => contactOf frame plan id (rowsOf id table)).modify k
          (addRow frame plan row) := by
    refine List.ext_getElem (by simp) fun j hj hj' => ?_
    rw [List.length_map] at hj
    rw [List.getElem_modify, List.getElem_map, List.getElem_map]
    split
    · rename_i hkj
      subst hkj
      rw [rowsOf_concat_self h, contactOf_concat]
    · rename_i hkj
      -- another place is that of another id
      have hne : (idsIn table)[k] ≠ (idsIn table)[j] := fun heq =>
        hkj ((List.Nodup.getElem_inj_iff (nodup_idsIn table)).mp heq)
      rw [rowsOf_concat_of_ne (by rw [h]; exact fun heq => hne (Option.some.inj heq))]
  simp only [told, Gathered.change, hids, hcontacts]

/-- A row of a new id tells of one more contact. -/
theorem told_concat_of_not_mem (h : row.id? idColumn = some id) (hmem : id ∉ idsIn table) :
    told frame plan (table ++ [row]) =
      ((told frame plan table).start ⟨plan.schema.type, id⟩).change
        (told frame plan table).contacts.length (addRow frame plan row) := by
  have hids : idsIn (table ++ [row]) = idsIn table ++ [id] := by
    rw [idsIn_concat h, if_neg hmem]
  have hrows : ∀ i ∈ idsIn table, rowsOf i (table ++ [row]) = rowsOf i table := fun i hi =>
    rowsOf_concat_of_ne fun heq => hmem (by rw [h] at heq; exact Option.some.inj heq ▸ hi)
  have hnew : contactOf frame plan id (rowsOf id (table ++ [row])) =
      addRow frame plan row { id := ⟨plan.schema.type, id⟩ } := by
    rw [rowsOf_concat_self h, rowsOf_eq_nil hmem]
    rfl
  have hcontacts : (idsIn table).map (fun i => contactOf frame plan i (rowsOf i (table ++ [row]))) =
      (told frame plan table).contacts :=
    List.map_congr_left fun i hi => by rw [hrows i hi]
  have hplace : (told frame plan table).contacts.length = (idsIn table).length :=
    List.length_map _
  calc told frame plan (table ++ [row])
      = ⟨(told frame plan table).contacts ++
            [addRow frame plan row { id := ⟨plan.schema.type, id⟩ }],
          (id, (idsIn table).length) :: (idsIn table).zipIdx.reverse, idsIn table ++ [id]⟩ := by
        simp only [told, hids, List.map_append, hcontacts, List.map_singleton, hnew,
          List.zipIdx_append, List.zipIdx_singleton, List.reverse_append, List.reverse_singleton,
          List.singleton_append, Nat.zero_add]
    _ = _ := by
        rw [Gathered.change, Gathered.start, modify_concat_length, hplace]
        rfl

/-- Rows read one after the other tell what the table tells. -/
theorem readRows_told (table rows : Table) :
    readRows frame plan none (told frame plan table) rows = told frame plan (table ++ rows) := by
  induction rows generalizing table with
  | nil => rw [readRows, List.append_nil]
  | cons row rows ih =>
    rw [readRows, ← List.singleton_append, ← List.append_assoc]
    cases h : row.id? idColumn with
    | none => rw [← told_concat_of_none h, ih (table ++ [row])]
    | some id =>
      dsimp only
      by_cases hmem : id ∈ idsIn table
      · obtain ⟨k, hk, rfl⟩ := List.getElem_of_mem hmem
        rw [told_places, lookup_zipIdx_reverse (nodup_idsIn table) hk]
        dsimp only
        rw [← told_concat_of_getElem hk h, ih (table ++ [row])]
      · rw [told_places, lookup_zipIdx_reverse_eq_none hmem]
        dsimp only
        rw [Option.any_none, if_neg Bool.false_ne_true, ← told_concat_of_not_mem h hmem,
          ih (table ++ [row])]

theorem readRows_eq_told (frame : Frame) (plan : Plan) (table : Table) :
    readRows frame plan none {} table = told frame plan table :=
  readRows_told [] table

theorem gather_eq_told (frame : Frame) (plan : Plan) (table : Table) :
    gather frame plan none false table = .ok (told frame plan table) := by
  rw [gather, Bool.false_and, if_neg Bool.false_ne_true, readRows_eq_told]

/-- The contacts of a result are what its table tells. -/
theorem contacts_eq_told (frame : Frame) (plan : Plan) (table : Table) :
    contacts frame plan none false table = .ok (told frame plan table).contacts := by
  rw [contacts, gather_eq_told]
  rfl

theorem map_id_told : (told frame plan table).contacts.map (·.id) =
    (idsIn table).map (ContactId.mk plan.schema.type) := by
  rw [told, List.map_map]
  exact List.map_congr_left fun id _ => contactOf_id frame plan id _

/-- A contact is what the rows of its id tell. -/
theorem eq_contactOf_of_mem_told {c : Contact} (h : c ∈ (told frame plan table).contacts) :
    c = contactOf frame plan c.localId (rowsOf c.localId table) := by
  obtain ⟨id, -, rfl⟩ := List.mem_map.mp h
  rw [contactOf_localId]

/-- The contacts of a result are those whose ids stand in its rows. -/
theorem mem_told_iff {i : ContactId} : i ∈ (told frame plan table).contacts.map (·.id) ↔
    i.type = plan.schema.type ∧ ∃ row ∈ table, row.id? idColumn = some i.number := by
  rw [map_id_told, List.mem_map, ← mem_idsIn_iff]
  constructor
  · rintro ⟨id, hid, rfl⟩
    exact ⟨rfl, hid⟩
  · rintro ⟨htype, hid⟩
    exact ⟨i.number, hid, by rw [← htype]⟩

/-- No contact of a result stands there twice. -/
theorem nodup_told : ((told frame plan table).contacts.map (·.id)).Nodup := by
  rw [map_id_told]
  exact (nodup_idsIn table).map fun _ _ h => (ContactId.mk.inj h).2

/-! ## Contacts apart -/

theorem rowsOf_rowsOf (id : LocalId) (table : Table) :
    rowsOf id (rowsOf id table) = rowsOf id table := by
  rw [rowsOf, rowsOf, List.filter_filter]
  simp only [Bool.and_self]

/-- The rows of one id have no other. -/
theorem idsIn_rowsOf (h : id ∈ idsIn table) : idsIn (rowsOf id table) = [id] := by
  have hmem : ∀ i, i ∈ idsIn (rowsOf id table) ↔ i ∈ [id] := by
    intro i
    rw [mem_idsIn_iff, List.mem_singleton]
    constructor
    · rintro ⟨row, hrow, hid⟩
      have hrow := of_decide_eq_true (List.mem_filter.mp hrow).2
      exact Option.some.inj (hid.symm.trans hrow)
    · rintro rfl
      obtain ⟨row, hrow, hid⟩ := mem_idsIn_iff.mp h
      exact ⟨row, List.mem_filter.mpr ⟨hrow, decide_eq_true hid⟩, hid⟩
  exact List.perm_singleton.mp
    ((List.perm_ext_iff_of_nodup (nodup_idsIn _) (List.nodup_singleton id)).mpr hmem)

/-- What a table tells depends only on the order of its ids and on the rows of each. -/
theorem told_congr {table' : Table} (hids : idsIn table' = idsIn table)
    (hrows : ∀ id, rowsOf id table' = rowsOf id table) :
    told frame plan table' = told frame plan table := by
  simp only [told, hids, hrows]

/-- Rows of different contacts have no part in each other. A result gives one contact for each id in
it, in the order of their first rows, and each contact is the one that the rows of its id give on
their own. Rows without an id change nothing, and any other result with the same rows of each id and
the same order of ids gives the same. -/
theorem gather_rowsOf (frame : Frame) (plan : Plan) (table : Table) :
    ∃ g, gather frame plan none false table = .ok g ∧ g.ids = idsIn table ∧
      g.contacts.map (·.id) = (idsIn table).map (ContactId.mk plan.schema.type) ∧
      (∀ c ∈ g.contacts, contacts frame plan none false (rowsOf c.localId table) = .ok [c]) ∧
      gather frame plan none false (table.filter fun row => (row.id? idColumn).isSome) = .ok g ∧
      ∀ table', idsIn table' = idsIn table → (∀ id, rowsOf id table' = rowsOf id table) →
        gather frame plan none false table' = .ok g := by
  refine ⟨_, gather_eq_told frame plan table, rfl, map_id_told, ?_, ?_, ?_⟩
  · intro c hc
    obtain ⟨id, hid, rfl⟩ := List.mem_map.mp hc
    rw [contactOf_localId, contacts_eq_told, told, idsIn_rowsOf hid, List.map_singleton,
      rowsOf_rowsOf]
  · have hids : idsIn (table.filter fun row => (row.id? idColumn).isSome) = idsIn table := by
      rw [idsIn, idsIn, List.filterMap_filter]
      refine congrArg List.eraseDups (List.filterMap_congr fun row _ => ?_)
      cases row.id? idColumn <;> rfl
    have hrows : ∀ id, rowsOf id (table.filter fun row => (row.id? idColumn).isSome) =
        rowsOf id table := by
      intro id
      rw [rowsOf, rowsOf, List.filter_filter]
      refine List.filter_congr fun row _ => ?_
      by_cases h : row.id? idColumn = some id <;> simp [h]
    rw [gather_eq_told, told_congr hids hrows]
  · intro table' hids hrows
    rw [gather_eq_told, told_congr hids hrows]

/-! ## Limits -/

/-- A new id stays behind those in front of its first row. -/
theorem idsIn_append_cons (h : row.id? idColumn = some id) (hmem : id ∉ idsIn table)
    (rows : Table) : ∃ more, idsIn (table ++ row :: rows) = idsIn table ++ id :: more := by
  have hnew : idsIn (table ++ [row]) = idsIn table ++ [id] := by
    rw [idsIn_concat h, if_neg hmem]
  rw [List.append_cons, idsIn, List.filterMap_append, List.eraseDups_append, ← idsIn, hnew,
    List.append_assoc]
  exact ⟨_, rfl⟩

/-- With a limit, rows tell what those in front of the first contact too many do : all of them, or
those in front of the first row of a new id. -/
theorem readRows_limit (frame : Frame) (plan : Plan) (table rows : Table) {n : Nat}
    (hn : (idsIn table).length ≤ n) :
    ∃ part, part <+: rows ∧
      readRows frame plan (some n) (told frame plan table) rows =
        told frame plan (table ++ part) ∧
      idsIn (table ++ part) = (idsIn (table ++ rows)).take n ∧
      (part = rows ∨ ∃ id row rest, rows = part ++ row :: rest ∧ row.id? idColumn = some id ∧
        id ∉ idsIn (table ++ part)) := by
  induction rows generalizing table with
  | nil =>
    refine ⟨[], List.prefix_rfl, by rw [readRows, List.append_nil], ?_, .inl rfl⟩
    rw [List.append_nil, List.take_of_length_le hn]
  | cons row rows ih =>
    -- the row is read, and then those behind it
    have hread (hn : (idsIn (table ++ [row])).length ≤ n) :
        ∃ part, part <+: row :: rows ∧
          readRows frame plan (some n) (told frame plan (table ++ [row])) rows =
            told frame plan (table ++ part) ∧
          idsIn (table ++ part) = (idsIn (table ++ row :: rows)).take n ∧
          (part = row :: rows ∨ ∃ id next rest, row :: rows = part ++ next :: rest ∧
            next.id? idColumn = some id ∧ id ∉ idsIn (table ++ part)) := by
      obtain ⟨part, hprefix, hpart, hids, hstop⟩ := ih (table ++ [row]) hn
      simp only [List.append_assoc, List.singleton_append] at hpart hids hstop
      refine ⟨row :: part, List.cons_prefix_cons.mpr ⟨rfl, hprefix⟩, hpart, hids, ?_⟩
      rcases hstop with rfl | ⟨id, next, rest, rfl, hid, hnew⟩
      · exact .inl rfl
      · exact .inr ⟨id, next, rest, rfl, hid, hnew⟩
    rw [readRows]
    cases h : row.id? idColumn with
    | none =>
      rw [← told_concat_of_none h]
      exact hread (by rwa [idsIn_concat_of_none h])
    | some id =>
      dsimp only
      by_cases hmem : id ∈ idsIn table
      · obtain ⟨k, hk, rfl⟩ := List.getElem_of_mem hmem
        rw [told_places, lookup_zipIdx_reverse (nodup_idsIn table) hk]
        dsimp only
        rw [← told_concat_of_getElem hk h]
        exact hread (by rwa [idsIn_concat h, if_pos hmem])
      · rw [told_places, lookup_zipIdx_reverse_eq_none hmem]
        dsimp only
        have hlength : (told frame plan table).contacts.length = (idsIn table).length :=
          List.length_map _
        rw [← told_concat_of_not_mem h hmem, hlength]
        split
        · rename_i hfull
          have hfull : n = (idsIn table).length :=
            Nat.le_antisymm (by simpa using hfull) hn
          obtain ⟨more, hmore⟩ := idsIn_append_cons h hmem rows
          refine ⟨[], List.nil_prefix, by rw [List.append_nil], ?_,
            .inr ⟨id, row, rows, rfl, h, by rwa [List.append_nil]⟩⟩
          rw [List.append_nil, hmore, hfull, List.take_left]
        · rename_i hroom
          refine hread ?_
          rw [idsIn_concat h, if_neg hmem, List.length_append, List.length_singleton]
          exact Nat.lt_of_not_le (by simpa using hroom)

/-- With a limit the rows read are those of the first ids, and with room for all they are all. -/
theorem readRows_start (frame : Frame) (plan : Plan) (n : Nat) (table : Table) :
    ∃ part, part <+: table ∧ readRows frame plan (some n) {} table = told frame plan part ∧
      idsIn part = (idsIn table).take n ∧ ((idsIn table).length ≤ n → part = table) := by
  obtain ⟨part, hprefix, hpart, hids, hstop⟩ :=
    readRows_limit frame plan [] table (Nat.zero_le n)
  refine ⟨part, hprefix, hpart, hids, fun hroom => hstop.resolve_right ?_⟩
  rintro ⟨id, row, rest, hrows, hid, hnew⟩
  -- with room for all no id is left for the row that reading would stop at
  have hmem : id ∈ idsIn table := mem_idsIn_iff.mpr ⟨row, by simp [hrows], hid⟩
  rw [hids, List.nil_append, List.take_of_length_le hroom] at hnew
  exact hnew hmem

/-! ## Contiguous rows -/

/-- The rows of an id stand together : between two of them is no row of another. Rows without an id
do not count. -/
def IsContiguous (table : Table) : Prop :=
  ∀ id other, id ≠ other → ¬ [id, other, id].Sublist (table.filterMap (·.id? idColumn))

/-- Where the rows of an id stand together, none of those in front of a new id come behind it. -/
theorem IsContiguous.rowsOf_eq {part rest : Table} {new : LocalId}
    (h : IsContiguous (part ++ row :: rest)) (hrow : row.id? idColumn = some new)
    (hnew : new ∉ idsIn part) (hid : id ∈ idsIn part) :
    rowsOf id (part ++ row :: rest) = rowsOf id part := by
  have hne : id ≠ new := fun heq => hnew (heq ▸ hid)
  have hrest : id ∉ idsIn (row :: rest) := by
    intro hmem
    obtain ⟨later, hlater, hid'⟩ := mem_idsIn_iff.mp hmem
    rcases List.mem_cons.mp hlater with rfl | hlater
    · exact hne (Option.some.inj (hid'.symm.trans hrow))
    · have hback : id ∈ rest.filterMap (·.id? idColumn) :=
        List.mem_filterMap.mpr ⟨later, hlater, hid'⟩
      have hfront : id ∈ part.filterMap (·.id? idColumn) := List.mem_eraseDups.mp hid
      have hcons : (row :: rest).filterMap (·.id? idColumn) =
          new :: rest.filterMap (·.id? idColumn) := List.filterMap_cons_some hrow
      refine h id new hne ?_
      rw [List.filterMap_append, hcons]
      exact (List.singleton_sublist.mpr hfront).append
        ((List.singleton_sublist.mpr hback).cons_cons new)
  rw [rowsOf, List.filter_append, ← rowsOf, ← rowsOf, rowsOf_eq_nil hrest, List.append_nil]

/-- Where the rows of an id stand together, a limit cuts the contacts off and leaves those in front
as they are. -/
theorem readRows_contiguous (h : IsContiguous table) (frame : Frame) (plan : Plan) (n : Nat) :
    (readRows frame plan (some n) {} table).contacts =
      (readRows frame plan none {} table).contacts.take n := by
  obtain ⟨part, -, hpart, hids, hstop⟩ := readRows_limit frame plan [] table (Nat.zero_le n)
  simp only [List.nil_append] at hpart hids hstop
  have hrows : ∀ id ∈ idsIn part, rowsOf id table = rowsOf id part := by
    intro id hid
    rcases hstop with rfl | ⟨new, row, rest, rfl, hrow, hnew⟩
    · rfl
    · exact h.rowsOf_eq hrow hnew hid
  have hstart : readRows frame plan (some n) {} table = told frame plan part := hpart
  calc (readRows frame plan (some n) {} table).contacts
      = (idsIn part).map fun id => contactOf frame plan id (rowsOf id part) := by
        rw [hstart, told]
    _ = (idsIn part).map fun id => contactOf frame plan id (rowsOf id table) :=
        List.map_congr_left fun id hid => by rw [hrows id hid]
    _ = (readRows frame plan none {} table).contacts.take n := by
        rw [hids, List.map_take, readRows_eq_told]
        rfl

/-- The contacts of a result are what the first rows of its table tell, all of them without a
limit. -/
theorem exists_told_of_contacts {limit : Option Nat} {canceled : Bool} {cs : List Contact}
    (h : contacts frame plan limit canceled table = .ok cs) :
    ∃ part, part <+: table ∧ cs = (told frame plan part).contacts := by
  rw [contacts, gather] at h
  split at h
  · cases h
  · cases h
    cases limit with
    | none => exact ⟨table, List.prefix_rfl, by rw [readRows_eq_told]⟩
    | some n =>
      obtain ⟨part, hprefix, hpart, -⟩ := readRows_start frame plan n table
      exact ⟨part, hprefix, by rw [hpart]⟩

/-- A result read with a limit has no more contacts than that. -/
theorem length_le_of_contacts {n : Nat} {canceled : Bool} {cs : List Contact}
    (h : contacts frame plan (some n) canceled table = .ok cs) : cs.length ≤ n := by
  rw [contacts, gather] at h
  split at h
  · cases h
  · cases h
    obtain ⟨part, -, hpart, hids, -⟩ := readRows_start frame plan n table
    rw [hpart, told, List.length_map, hids]
    exact List.length_take_le n _

/-- A contact of a result is what the first rows of its id tell. -/
theorem exists_rows_of_mem_contacts {limit : Option Nat} {canceled : Bool} {cs : List Contact}
    {c : Contact} (h : contacts frame plan limit canceled table = .ok cs) (hc : c ∈ cs) :
    ∃ rows, rows <+: rowsOf c.localId table ∧ c = contactOf frame plan c.localId rows := by
  obtain ⟨part, hprefix, rfl⟩ := exists_told_of_contacts h
  exact ⟨rowsOf c.localId part, hprefix.filter _, eq_contactOf_of_mem_told hc⟩

end Result

end ContactGraph
