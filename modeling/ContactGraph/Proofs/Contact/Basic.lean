import ContactGraph.Contact.Basic
import Mathlib.Data.List.Basic

/-!
# Details of a contact

Details are equal when their parts are (`Detail.beq_iff`). A number that is none differs from
itself, so a detail need not equal itself, but which of two is compared with the other makes no
difference (`Detail.beq_comm`). A contact gets saved details behind those it has
(`Contact.foldl_save`). A detail of which it may have only one is refused just when a different one
of its name is there (`Contact.saveUnique_eq_error_iff`), and without the refused ones a contact
keeps the first of a name (`Contact.getD_saveUnique`). Removing duplicates leaves details of which
no two are equal (`Contact.pairwise_distinctAfter`).
-/

namespace ContactGraph

theorem Double.beq_comm (x y : Double) : (x == y) = (y == x) := by
  have hbits : decide (x.bits = y.bits) = decide (y.bits = x.bits) := decide_eq_decide.mpr eq_comm
  show x.eqv y = y.eqv x
  rw [eqv, eqv, Bool.and_comm (decide (x.magnitude ≤ infinityBits)), hbits,
    Bool.and_comm (decide (x.magnitude = 0))]

theorem Value.beq_comm (v w : Value) : (v == w) = (w == v) := by
  cases v <;> cases w <;> try rfl
  case text.text s t => exact (BEq.comm : (s == t) = (t == s))
  case list.list items others => exact (BEq.comm : (items == others) = (others == items))
  case instant.instant i j => exact (BEq.comm : (i == j) = (j == i))
  case integer.integer i j => exact (BEq.comm : (i == j) = (j == i))
  case double.double x y => exact Double.beq_comm x y
  case bool.bool a b => exact (BEq.comm : (a == b) = (b == a))
  case url.url s t => exact (BEq.comm : (s == t) = (t == s))

namespace NameMap

variable {β : Type} [BEq β]

theorem beq_comm (h : ∀ v w : β, (v == w) = (w == v)) (a b : NameMap β) : (a == b) = (b == a) := by
  show (a.entries == b.entries) = (b.entries == a.entries)
  generalize a.entries = xs, b.entries = ys
  induction xs generalizing ys with
  | nil => cases ys <;> rfl
  | cons x xs ih =>
    cases ys with
    | nil => rfl
    | cons y ys =>
      show ((x.1 == y.1 && x.2 == y.2) && xs == ys) = ((y.1 == x.1 && y.2 == x.2) && ys == xs)
      rw [ih, h x.2, BEq.comm (a := x.1)]

end NameMap

namespace Detail

variable {d e : Detail}

theorem beq_iff : (d == e) = true ↔
    d.name = e.name ∧ (d.values == e.values) = true ∧ d.uri = e.uri ∧ d.links = e.links ∧
      d.context = e.context ∧ d.readOnly = e.readOnly := by
  have hparts : (d == e) = (d.name == e.name && (d.values == e.values && (d.uri == e.uri &&
      (d.links == e.links && (d.context == e.context && d.readOnly == e.readOnly))))) := rfl
  rw [hparts]
  simp only [Bool.and_eq_true, beq_iff_eq]

theorem beq_comm (d e : Detail) : (d == e) = (e == d) := by
  rw [Bool.eq_iff_iff, beq_iff, beq_iff, NameMap.beq_comm Value.beq_comm, eq_comm (a := d.name),
    eq_comm (a := d.uri), eq_comm (a := d.links), eq_comm (a := d.context),
    eq_comm (a := d.readOnly)]

/-- Details of different names differ. -/
theorem beq_eq_false_of_name_ne (h : d.name ≠ e.name) : (d == e) = false :=
  Bool.eq_false_iff.mpr fun heq => h (beq_iff.mp heq).1

end Detail

namespace Contact

variable {c : Contact} {d e : Detail} {name : String}

theorem foldl_save (c : Contact) (ds : List Detail) :
    ds.foldl save c = { c with details := c.details ++ ds } := by
  induction ds generalizing c with
  | nil => rw [List.append_nil]; rfl
  | cons d ds ih => rw [List.foldl_cons, ih, save, List.append_assoc, List.singleton_append]

theorem mem_without : d ∈ (c.without name).details ↔ d ∈ c.details ∧ d.name ≠ name := by
  rw [without, List.mem_filter, decide_eq_true_eq]

/-- What holds of no detail of a name holds of the same details without that name. -/
theorem filter_without {p : Detail → Bool} (h : ∀ d, d.name = name → p d = false) :
    (c.without name).details.filter p = c.details.filter p := by
  rw [without, List.filter_filter]
  refine List.filter_congr fun d _ => ?_
  by_cases hname : d.name = name
  · rw [h d hname, Bool.false_and]
  · rw [decide_eq_true hname, Bool.and_true]

/-- Details of another name are left. -/
theorem detailsNamed_without {other : String} (h : other ≠ name) (c : Contact) :
    (c.without name).detailsNamed other = c.detailsNamed other :=
  filter_without fun _ hd => decide_eq_false fun heq => h (heq.symm.trans hd)

theorem without_without (c : Contact) (name : String) :
    (c.without name).without name = c.without name := by
  simp only [without, List.filter_filter, Bool.and_self]

theorem save_without (c : Contact) (d : Detail) : (c.save d).without d.name = c.without d.name := by
  simp [without, save]

/-! ## Details of which there is one -/

/-- A detail is refused just when a different one of its name is there. The error says which contact
has it and what it is called. -/
theorem saveUnique_eq_error_iff {error : Error} :
    c.saveUnique d = .error error ↔
      (∃ x, c.detail? d.name = some x ∧ (x == d) = false) ∧
        error = .duplicateUniqueDetail c.localId d.name := by
  unfold saveUnique
  cases c.detail? d.name with
  | none => simp
  | some x => cases hx : x == d <;> simp [hx, eq_comm (a := error)]

/-- A detail that is not refused is added when there is none of its name, and equals the one that is
there otherwise. -/
theorem saveUnique_eq_ok_iff {c' : Contact} :
    c.saveUnique d = .ok c' ↔
      c.detail? d.name = none ∧ c' = c.save d ∨
        (∃ x, c.detail? d.name = some x ∧ (x == d) = true) ∧ c' = c := by
  unfold saveUnique
  cases c.detail? d.name with
  | none => simp [eq_comm (a := c')]
  | some x => cases hx : x == d <;> simp [hx, eq_comm (a := c')]

/-- When refused details are let go, the first of a name stays. -/
theorem getD_saveUnique (c : Contact) (d : Detail) :
    (c.saveUnique d).toOption.getD c = if (c.detail? d.name).isSome then c else c.save d := by
  cases h : c.saveUnique d with
  | error e =>
    obtain ⟨⟨x, hx, -⟩, -⟩ := saveUnique_eq_error_iff.mp h
    rw [hx]
    rfl
  | ok c' =>
    rcases saveUnique_eq_ok_iff.mp h with ⟨hnone, rfl⟩ | ⟨⟨x, hx, -⟩, rfl⟩
    · rw [hnone]
      rfl
    · rw [hx]
      rfl

/-! ## Duplicates -/

theorem distinctAfter_sublist (seen ds : List Detail) : (distinctAfter seen ds).Sublist ds := by
  induction ds generalizing seen with
  | nil => exact .slnil
  | cons d ds ih =>
    rw [distinctAfter]
    split
    · exact (ih seen).cons d
    · exact (ih _).cons_cons d

theorem beq_eq_false_of_mem_distinctAfter {seen ds : List Detail}
    (hd : d ∈ seen) (he : e ∈ distinctAfter seen ds) : (d == e) = false := by
  induction ds generalizing seen with
  | nil => exact absurd he List.not_mem_nil
  | cons x ds ih =>
    rw [distinctAfter] at he
    split at he
    · exact ih hd he
    · rename_i hnew
      rcases List.mem_cons.mp he with rfl | he
      · exact Bool.eq_false_iff.mpr fun heq => hnew (List.any_eq_true.mpr ⟨d, hd, heq⟩)
      · exact ih (List.mem_append_left _ hd) he

/-- Of equal details only the first stays. -/
theorem pairwise_distinctAfter (seen ds : List Detail) :
    (distinctAfter seen ds).Pairwise fun d e => (d == e) = false := by
  induction ds generalizing seen with
  | nil => exact .nil
  | cons d ds ih =>
    rw [distinctAfter]
    split
    · exact ih seen
    · refine .cons (fun e he => ?_) (ih _)
      exact beq_eq_false_of_mem_distinctAfter (List.mem_append_right _ List.mem_cons_self) he

end Contact

end ContactGraph
