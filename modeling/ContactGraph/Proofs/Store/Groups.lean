import ContactGraph.Proofs.Store.Truth

/-!
# Groups met one pattern at a time

A group can be met when its first pattern can and then, with what that binds, the others. An edge to
a variable that is not bound yet leads to some node (`isTrue_holds_edge_iff`), a step does so either
way round (`isTrue_holds_step_iff`), and an edge to a text is there or not
(`isTrue_holds_text_iff`).
-/

namespace ContactGraph

open Query Vocabulary

namespace Store

variable {T : Store} {β γ : Valuation} {a b : Variable} {q : Iri} {x : Node} {g : Group} {e : Expr}

/-! ## Patterns -/

/-- A group without patterns is met as it is. -/
theorem isTrue_holds_nil : T.IsTrue β (.holds []) := by
  simp [IsTrue, value, joins, conditions]

/-- A group of one condition is met when the condition is true. -/
theorem isTrue_holds_filter_iff : T.IsTrue β (.holds [.filter e]) ↔ T.IsTrue β e := by
  simp [IsTrue, value, joins, extensions, conditions, condition]

/-- A group is met when its first edge is, and then the others. -/
theorem isTrue_holds_triple_iff {s o : Expr} : T.IsTrue β (.holds (.triple s q o :: g)) ↔
    ∃ γ ∈ T.extensions β (.triple s q o), T.IsTrue γ (.holds g) := by
  simp [IsTrue, value, joins, conditions, condition, List.any_flatMap]

/-- An edge from a node to a free variable gives it what a property leads to. -/
theorem mem_extensions_edge_iff (ha : β a = some x) (hb : β b = none) :
    γ ∈ T.extensions β (edge a q b) ↔ ∃ y, T.Edge x q y ∧ γ = β.set b y := by
  rw [edge, mem_extensions_triple_iff]
  constructor
  · rintro ⟨t, ht, hq, δ, hδ, hγ⟩
    simp only [value, ha, Valuation.unify, Option.ite_none_right_eq_some, Option.some.injEq] at hδ
    obtain ⟨hsubject, rfl⟩ := hδ
    simp only [value, hb, Valuation.unify, Option.some.injEq] at hγ
    exact ⟨t.object, ⟨t, ht, hq, hsubject.symm, rfl⟩, hγ.symm⟩
  · rintro ⟨_, ⟨t, ht, hq, rfl, rfl⟩, rfl⟩
    exact ⟨t, ht, hq, β, by simp [value, ha, Valuation.unify],
      by simp [value, hb, Valuation.unify]⟩

/-- An edge from a free variable to a node gives it what the property leads from. -/
theorem mem_extensions_edge_to_iff (ha : β a = some x) (hb : β b = none) :
    γ ∈ T.extensions β (edge b q a) ↔ ∃ y, T.Edge y q x ∧ γ = β.set b y := by
  have hne : a ≠ b := by
    rintro rfl
    simp [ha] at hb
  rw [edge, mem_extensions_triple_iff]
  constructor
  · rintro ⟨t, ht, hq, δ, hδ, hγ⟩
    simp only [value, hb, Valuation.unify, Option.some.injEq] at hδ
    subst hδ
    simp only [value, Valuation.set_of_ne β _ hne, ha, Valuation.unify,
      Option.ite_none_right_eq_some, Option.some.injEq] at hγ
    exact ⟨t.subject, ⟨t, ht, hq, rfl, hγ.1.symm⟩, hγ.2.symm⟩
  · rintro ⟨_, ⟨t, ht, hq, rfl, rfl⟩, rfl⟩
    exact ⟨t, ht, hq, β.set b t.subject, by simp [value, hb, Valuation.unify],
      by simp [value, Valuation.set_of_ne β _ hne, ha, Valuation.unify]⟩

/-- An edge from a node to a text binds nothing. -/
theorem mem_extensions_text_iff {w : String} (ha : β a = some x) :
    γ ∈ T.extensions β (.triple (.var a) q (Expr.text w)) ↔ T.Edge x q (.text w) ∧ γ = β := by
  rw [Expr.text, mem_extensions_triple_iff]
  constructor
  · rintro ⟨t, ht, hq, δ, hδ, hγ⟩
    simp only [value, ha, Valuation.unify, Option.ite_none_right_eq_some, Option.some.injEq] at hδ
    obtain ⟨hsubject, rfl⟩ := hδ
    simp only [value, Valuation.unify, Option.ite_none_right_eq_some, Option.some.injEq] at hγ
    exact ⟨⟨t, ht, hq, hsubject.symm, hγ.1.symm⟩, hγ.2.symm⟩
  · rintro ⟨⟨t, ht, hq, rfl, hobject⟩, rfl⟩
    exact ⟨t, ht, hq, γ, by simp [value, ha, Valuation.unify],
      by simp [value, hobject, Valuation.unify]⟩

/-! ## Groups -/

theorem isTrue_holds_edge_iff (ha : β a = some x) (hb : β b = none) :
    T.IsTrue β (.holds (edge a q b :: g)) ↔
      ∃ y, T.Edge x q y ∧ T.IsTrue (β.set b y) (.holds g) := by
  rw [edge, isTrue_holds_triple_iff]
  constructor
  · rintro ⟨γ, hγ, h⟩
    obtain ⟨y, hy, rfl⟩ := (mem_extensions_edge_iff ha hb).mp hγ
    exact ⟨y, hy, h⟩
  · rintro ⟨y, hy, h⟩
    exact ⟨_, (mem_extensions_edge_iff ha hb).mpr ⟨y, hy, rfl⟩, h⟩

theorem isTrue_holds_step_iff {p : Property} (ha : β a = some x) (hb : β b = none) :
    T.IsTrue β (.holds (step a p b :: g)) ↔
      ∃ y, T.Step p x y ∧ T.IsTrue (β.set b y) (.holds g) := by
  unfold step Step
  split
  · rw [edge, isTrue_holds_triple_iff]
    constructor
    · rintro ⟨γ, hγ, h⟩
      obtain ⟨y, hy, rfl⟩ := (mem_extensions_edge_to_iff ha hb).mp hγ
      exact ⟨y, hy, h⟩
    · rintro ⟨y, hy, h⟩
      exact ⟨_, (mem_extensions_edge_to_iff ha hb).mpr ⟨y, hy, rfl⟩, h⟩
  · exact isTrue_holds_edge_iff ha hb

theorem isTrue_holds_text_iff {w : String} (ha : β a = some x) :
    T.IsTrue β (.holds (.triple (.var a) q (Expr.text w) :: g)) ↔
      T.Edge x q (.text w) ∧ T.IsTrue β (.holds g) := by
  rw [isTrue_holds_triple_iff]
  simp [mem_extensions_text_iff ha, and_assoc]

end Store

end ContactGraph
