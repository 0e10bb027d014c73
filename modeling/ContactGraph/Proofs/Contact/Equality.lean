import ContactGraph.Proofs.Contact.Basic
import ContactGraph.Proofs.Contact.Detail

/-!
# Equal details

Only a number that is none differs from itself. So a detail equals itself when its values do
(`Detail.beq_self`), and among details without doubles being equal is being the same
(`Detail.eq_of_beq`).
-/

namespace ContactGraph

namespace Value

variable {v w : Value}

theorem beq_self (h : v.type ≠ .double) : (v == v) = true := by
  cases v with
  | text s => exact BEq.rfl (a := s)
  | list items => exact BEq.rfl (a := items)
  | instant i => exact BEq.rfl (a := i)
  | integer i => exact BEq.rfl (a := i)
  | double x => exact absurd rfl h
  | bool b => exact BEq.rfl (a := b)
  | url s => exact BEq.rfl (a := s)

/-- What equals a value that is no double is that value. -/
theorem eq_of_beq (h : v.type ≠ .double) (heq : (v == w) = true) : v = w := by
  cases v <;> cases w <;> try exact absurd heq Bool.false_ne_true
  case text.text s t => exact congrArg text (LawfulBEq.eq_of_beq (a := s) heq)
  case list.list items others => exact congrArg list (LawfulBEq.eq_of_beq (a := items) heq)
  case instant.instant i j => exact congrArg instant (LawfulBEq.eq_of_beq (a := i) heq)
  case integer.integer i j => exact congrArg integer (LawfulBEq.eq_of_beq (a := i) heq)
  case double.double => exact absurd rfl h
  case bool.bool a b => exact congrArg bool (LawfulBEq.eq_of_beq (a := a) heq)
  case url.url s t => exact congrArg url (LawfulBEq.eq_of_beq (a := s) heq)

end Value

namespace NameMap

variable {β : Type} [BEq β] {a b : NameMap β}

theorem beq_self (h : ∀ k v, a.get? k = some v → (v == v) = true) : (a == a) = true := by
  have hentries : ∀ e ∈ a.entries, (e.2 == e.2) = true := fun e he =>
    h e.1 e.2 (get?_eq_some_iff.mpr he)
  show (a.entries == a.entries) = true
  generalize a.entries = es at hentries
  induction es with
  | nil => rfl
  | cons e es ih =>
    rw [List.forall_mem_cons] at hentries
    show ((e.1 == e.1 && e.2 == e.2) && es == es) = true
    rw [BEq.rfl, hentries.1, ih hentries.2]
    rfl

/-- Equal maps are the same, when what equals a value of the first is that value. -/
theorem eq_of_beq (h : ∀ k v, a.get? k = some v → ∀ w, (v == w) = true → v = w)
    (heq : (a == b) = true) : a = b := by
  have hentries : ∀ e ∈ a.entries, ∀ w, (e.2 == w) = true → e.2 = w := fun e he =>
    h e.1 e.2 (get?_eq_some_iff.mpr he)
  replace heq : (a.entries == b.entries) = true := heq
  refine NameMap.ext ?_
  generalize a.entries = es, b.entries = es' at hentries heq
  induction es generalizing es' with
  | nil =>
    cases es' with
    | nil => rfl
    | cons e' es' => cases heq
  | cons e es ih =>
    cases es' with
    | nil => cases heq
    | cons e' es' =>
      rw [List.forall_mem_cons] at hentries
      replace heq : ((e.1 == e'.1 && e.2 == e'.2) && es == es') = true := heq
      simp only [Bool.and_eq_true, beq_iff_eq] at heq
      rw [ih es' hentries.2 heq.2, Prod.ext heq.1.1 (hentries.1 e'.2 heq.1.2)]

end NameMap

namespace Detail

variable {d e : Detail}

/-- A detail equals itself when its values do. -/
theorem beq_self (h : ∀ field v, d.value? field = some v → (v == v) = true) : (d == d) = true :=
  beq_iff.mpr ⟨rfl, NameMap.beq_self h, rfl, rfl, rfl, rfl⟩

/-- What equals a detail without doubles is that detail. -/
theorem eq_of_beq (h : ∀ field v, d.value? field = some v → v.type ≠ .double)
    (heq : (d == e) = true) : d = e := by
  obtain ⟨hname, hvalues, huri, hlinks, hcontext, hreadOnly⟩ := beq_iff.mp heq
  have hsame : d.values = e.values :=
    NameMap.eq_of_beq (fun field v hv w => Value.eq_of_beq (h field v hv)) hvalues
  cases d
  cases e
  simp_all

end Detail

end ContactGraph
