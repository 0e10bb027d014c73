import ContactGraph.Proofs.Result.Rows

/-!
# Where reading stops

With a limit, reading stops at a row, and never goes on behind it. The rows in front of it are the
longest beginning of the table with no more ids than the limit allows (`IsCutOff`), and what is read
is just what these rows tell on their own (`gather_cutOff`) : rows without an id and rows of
contacts that are already there do not count, but all rows behind a contact too many are lost, also
those of contacts in front of it.
-/

namespace ContactGraph.Result

open Query

variable {table part : Table} {n : Nat}

/-- The rows that `n` contacts leave room for : the longest beginning of a table with no more than
`n` ids. -/
structure IsCutOff (n : Nat) (table part : Table) : Prop where
  /-- The rows are the first ones of the table. -/
  isPrefix : part <+: table
  /-- There are no more than `n` ids in them. -/
  length_le : (idsIn part).length ≤ n
  /-- All first rows with no more than `n` ids are among them. -/
  longest : ∀ {longer}, longer <+: table → (idsIn longer).length ≤ n → longer <+: part

/-- Rows in front of a row of a new id, and with as many ids as there may be, are cut off there. -/
theorem isCutOff_of_cons {row : Row} {rest : Table} {id : LocalId}
    (hid : row.id? idColumn = some id) (hnew : id ∉ idsIn part) (hfull : (idsIn part).length = n) :
    IsCutOff n (part ++ row :: rest) part where
  isPrefix := List.prefix_append ..
  length_le := Nat.le_of_eq hfull
  longest {longer} hprefix hlength := by
    rcases List.prefix_or_prefix_of_prefix hprefix (List.prefix_append part (row :: rest)) with
      hshort | ⟨more, rfl⟩
    · exact hshort
    · rw [List.prefix_append_right_inj] at hprefix
      cases more with
      | nil => simp only [List.append_nil, List.prefix_rfl]
      | cons next more =>
        -- with the next row there is one id more, and that is one too many
        obtain ⟨rfl, -⟩ := List.cons_prefix_cons.mp hprefix
        obtain ⟨ids, hids⟩ := idsIn_append_cons hid hnew more
        rw [hids, List.length_append, List.length_cons] at hlength
        omega

/-- Reading with a limit is reading the rows up to where it cuts them off. -/
theorem exists_isCutOff (frame : Frame) (plan : Plan) (n : Nat) (table : Table) :
    ∃ part, IsCutOff n table part ∧
      readRows frame plan (some n) {} table = told frame plan part := by
  obtain ⟨part, hprefix, hpart, hids, hstop⟩ :=
    readRows_limit frame plan [] table (Nat.zero_le n)
  simp only [List.nil_append] at hpart hids hstop
  have hstart : readRows frame plan (some n) {} table = told frame plan part := hpart
  refine ⟨part, ?_, hstart⟩
  rcases hstop with rfl | ⟨id, row, rest, rfl, hid, hnew⟩
  · have hlength : (idsIn part).length ≤ n := hids ▸ List.length_take_le ..
    exact { isPrefix := hprefix, length_le := hlength, longest := fun hlonger _ => hlonger }
  · refine isCutOff_of_cons hid hnew ?_
    -- with room for one more, the id of the row would be among those that are read
    have hmem : id ∈ idsIn (part ++ row :: rest) := mem_idsIn_iff.mpr ⟨row, by simp, hid⟩
    have hroom : n ≤ (idsIn (part ++ row :: rest)).length := by
      by_contra hroom
      rw [List.take_of_length_le (by omega)] at hids
      exact hnew (hids ▸ hmem)
    rw [hids, List.length_take, Nat.min_eq_left hroom]

/-- The rows of a table that are read : without a limit all of them. -/
def IsRead : Option Nat → Table → Table → Prop
  | none, table, part => part = table
  | some n, table, part => IsCutOff n table part

/-- What is read is what the rows that are read tell. -/
theorem exists_isRead (frame : Frame) (plan : Plan) (limit : Option Nat) (table : Table) :
    ∃ part, IsRead limit table part ∧
      readRows frame plan limit {} table = told frame plan part := by
  cases limit with
  | none => exact ⟨table, rfl, readRows_eq_told frame plan table⟩
  | some n => exact exists_isCutOff frame plan n table

/-- A result read with a limit is that of its rows up to where the limit cuts them off, read without
one : there are no more contacts than the limit allows, each has all that these rows tell of it, and
the rows behind have no part in any. Where the rows of each contact stand together, the contacts are
the first ones of all. -/
theorem gather_cutOff (frame : Frame) (plan : Plan) (n : Nat) (table : Table) :
    ∃ part g, IsCutOff n table part ∧ gather frame plan (some n) false table = .ok g ∧
      gather frame plan none false part = .ok g ∧ g.contacts.length ≤ n ∧
      (n = 0 → g.contacts = []) ∧
      (IsContiguous table → ∃ all, gather frame plan none false table = .ok all ∧
        g.contacts = all.contacts.take n) := by
  obtain ⟨part, hcut, hread⟩ := exists_isCutOff frame plan n table
  have hlimited : gather frame plan (some n) false table = .ok (told frame plan part) := by
    rw [gather, Bool.false_and, if_neg Bool.false_ne_true, hread]
  have hlength : (told frame plan part).contacts.length ≤ n := by
    rw [told, List.length_map]
    exact hcut.length_le
  refine ⟨part, _, hcut, hlimited, gather_eq_told frame plan part, hlength, ?_, fun h => ?_⟩
  · rintro rfl
    exact List.eq_nil_of_length_eq_zero (Nat.le_zero.mp hlength)
  · refine ⟨_, gather_eq_told frame plan table, ?_⟩
    rw [← hread, readRows_contiguous h, readRows_eq_told]

end ContactGraph.Result
