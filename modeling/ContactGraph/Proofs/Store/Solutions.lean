import ContactGraph.Proofs.Store.Meaning

/-!
# Solutions as assignments

`Store.solutions` finds solutions by matching one pattern after the other. For groups of triple
patterns and filters `mem_solutions_iff` says what it finds, without an order : the assignments of
values to the variables of the group that are not bound yet, under which every triple is in the
store and every filter is true. `isTrue_holds_iff` is the same for `EXISTS`.
-/

namespace ContactGraph

open Query Vocabulary

/-! ## Assignments -/

namespace Valuation

/-- `γ` is `β` with values for some of the variables `vs` that `β` leaves unbound. -/
structure ExtendedBy (β γ : Valuation) (vs : List Variable) : Prop where
  /-- What is bound stays bound. -/
  keeps : ∀ {v x}, β v = some x → γ v = some x
  /-- No other variable changes. -/
  only : ∀ {v}, v ∉ vs → γ v = β v

variable {β γ δ : Valuation} {vs ws : List Variable}

theorem ExtendedBy.refl (β : Valuation) (vs : List Variable) : β.ExtendedBy β vs :=
  ⟨fun h => h, fun _ => rfl⟩

theorem ExtendedBy.trans (h₁ : β.ExtendedBy γ vs) (h₂ : γ.ExtendedBy δ ws) :
    β.ExtendedBy δ (vs ++ ws) := by
  refine ⟨fun h => h₂.keeps (h₁.keeps h), fun {v} hv => ?_⟩
  rw [List.mem_append, not_or] at hv
  rw [h₂.only hv.2, h₁.only hv.1]

theorem extendedBy_nil_iff : β.ExtendedBy γ [] ↔ γ = β :=
  ⟨fun h => funext fun _ => h.only List.not_mem_nil, fun h => h ▸ ExtendedBy.refl β []⟩

/-- An assignment of two lists of variables is one of the first, then one of the second. -/
theorem ExtendedBy.split (h : β.ExtendedBy δ (vs ++ ws)) :
    ∃ γ, β.ExtendedBy γ vs ∧ γ.ExtendedBy δ ws ∧ ∀ v ∈ vs, γ v = δ v := by
  refine ⟨fun v => if v ∈ vs then δ v else β v, ⟨?_, ?_⟩, ⟨?_, ?_⟩, ?_⟩
  · intro v x hx
    by_cases hv : v ∈ vs
    · simpa [hv] using h.keeps hx
    · simpa [hv] using hx
  · intro v hv
    simp [hv]
  · intro v x hx
    by_cases hv : v ∈ vs
    · simpa [hv] using hx
    · exact h.keeps (by simpa [hv] using hx)
  · intro v hv
    by_cases hv' : v ∈ vs
    · simp [hv']
    · simpa [hv'] using h.only (by simp [hv, hv'])
  · intro v hv
    simp [hv]

theorem set_self (β : Valuation) (v : Variable) (x : Node) : β.set v x v = some x := by
  simp [set]

theorem set_of_ne (β : Valuation) {v w : Variable} (x : Node) (h : w ≠ v) : β.set v x w = β w := by
  simp [set, h]

theorem extendedBy_set {v : Variable} (h : β v = none) (x : Node) :
    β.ExtendedBy (β.set v x) [v] := by
  refine ⟨fun {w y} hw => ?_, fun {w} hw => set_of_ne β x (by simpa using hw)⟩
  have hne : w ≠ v := by
    rintro rfl
    simp [h] at hw
  rw [set_of_ne β x hne, hw]

end Valuation

/-! ## Terms of patterns -/

namespace Query

/-- Whether an expression is a variable or a constant. -/
def Expr.isTerm : Expr → Bool
  | .var _ => true
  | .iri _ => true
  | .literal _ _ => true
  | _ => false

/-- The variable of a term. -/
def Expr.termVars : Expr → List Variable
  | .var v => [v]
  | _ => []

/-- Whether a pattern is a filter or an edge between terms. -/
def Pattern.isBasic : Pattern → Bool
  | .triple s _ o => s.isTerm && o.isTerm
  | .filter _ => true
  | _ => false

/-- The variables a pattern binds. -/
def Pattern.vars : Pattern → List Variable
  | .triple s _ o => s.termVars ++ o.termVars
  | _ => []

/-- The variables a group binds. -/
def Group.vars (g : Group) : List Variable :=
  g.flatMap Pattern.vars

end Query

namespace Store

variable {T : Store} {β γ : Valuation}

/-- A term has the same value under valuations that agree on its variable. -/
theorem value_term_congr {e : Expr} (he : e.isTerm) (h : ∀ v ∈ e.termVars, β v = γ v) :
    T.value [] β e = T.value [] γ e := by
  cases e with
  | var v => simpa [value, Expr.termVars] using h
  | literal s type => cases type <;> simp [value]
  | iri iri => simp [value]
  | _ => simp [Expr.isTerm] at he

/-- A term keeps its value when more variables are bound. -/
theorem value_term_mono {e : Expr} (he : e.isTerm) {vs : List Variable} (h : β.ExtendedBy γ vs)
    {x : Node} (hx : T.value [] β e = some x) : T.value [] γ e = some x := by
  cases e with
  | var v =>
    simp only [value] at hx ⊢
    exact h.keeps hx
  | literal s type => cases type <;> simpa [value] using hx
  | iri iri => simpa [value] using hx
  | _ => simp [Expr.isTerm] at he

/-- Giving a term a value assigns just its variable. -/
theorem unify_eq_some_iff {e : Expr} (he : e.isTerm) (x : Node) :
    β.unify e (T.value [] β e) x = some γ ↔
      β.ExtendedBy γ e.termVars ∧ T.value [] γ e = some x := by
  have hconst : ∀ y, T.value [] β e = some y →
      (β.unify e (T.value [] β e) x = some γ ↔ y = x ∧ β = γ) := by
    intro y hy
    by_cases hyx : y = x <;> simp [Valuation.unify, hy, hyx]
  cases hval : T.value [] β e with
  | some y =>
    rw [← hval, hconst y hval]
    constructor
    · rintro ⟨rfl, rfl⟩
      exact ⟨Valuation.ExtendedBy.refl _ _, hval⟩
    · rintro ⟨hext, hx⟩
      rw [value_term_mono he hext hval] at hx
      refine ⟨Option.some.inj hx, (funext fun v => ?_)⟩
      by_cases hv : v ∈ e.termVars
      · cases e with
        | var w =>
          obtain rfl : v = w := by simpa [Expr.termVars] using hv
          simp only [value] at hval
          rw [hval, hext.keeps hval]
        | _ => simp [Expr.termVars] at hv
      · exact (hext.only hv).symm
  | none =>
    cases e with
    | var v =>
      simp only [value] at hval ⊢
      simp only [Valuation.unify, Option.some.injEq, Expr.termVars]
      constructor
      · rintro rfl
        exact ⟨Valuation.extendedBy_set hval x, Valuation.set_self β v x⟩
      · rintro ⟨hext, hx⟩
        funext w
        by_cases hw : w = v
        · rw [hw, hx, Valuation.set_self]
        · rw [Valuation.set_of_ne β x hw, hext.only (by simpa using hw)]
    | literal s type => cases type <;> simp [value] at hval
    | iri iri => simp [value] at hval
    | _ => simp [Expr.isTerm] at he

/-! ## Groups -/

/-- A triple pattern is in the store, a filter is true. -/
def Meets (T : Store) (γ : Valuation) : Pattern → Prop
  | .triple s p o => ∃ t ∈ T.triples, t.predicate = p ∧
      T.value [] γ s = some t.subject ∧ T.value [] γ o = some t.object
  | .filter e => T.IsTrue γ e
  | _ => True

/-- A triple pattern is met by giving values to its subject, and then to its object. -/
theorem mem_extensions_triple_iff {s o : Expr} : γ ∈ T.extensions β (.triple s q o) ↔
    ∃ t ∈ T.triples, t.predicate = q ∧ ∃ δ, β.unify s (T.value [] β s) t.subject = some δ ∧
      δ.unify o (T.value [] δ o) t.object = some γ := by
  simp only [extensions, List.mem_flatMap]
  refine exists_congr fun t => and_congr_right fun _ => ?_
  by_cases hq : t.predicate = q <;> simp [hq, Option.bind_eq_some_iff]

theorem mem_extensions_iff {p : Pattern} (hp : p.isBasic) :
    γ ∈ T.extensions β p ↔
      β.ExtendedBy γ p.vars ∧ (∀ s q o, p = .triple s q o → T.Meets γ p) := by
  cases p with
  | filter e => simp [extensions, Pattern.vars, Valuation.extendedBy_nil_iff]
  | optional g => simp [Pattern.isBasic] at hp
  | graph v g => simp [Pattern.isBasic] at hp
  | triple s q o =>
    obtain ⟨hs, ho⟩ : s.isTerm ∧ o.isTerm := by simpa [Pattern.isBasic] using hp
    rw [mem_extensions_triple_iff]
    constructor
    · rintro ⟨t, ht, hq, δ, hδ, hγ⟩
      rw [unify_eq_some_iff hs] at hδ
      rw [unify_eq_some_iff ho] at hγ
      refine ⟨hδ.1.trans hγ.1, fun _ _ _ _ => ⟨t, ht, hq, ?_, hγ.2⟩⟩
      exact value_term_mono hs hγ.1 hδ.2
    · rintro ⟨hext, hmeets⟩
      obtain ⟨t, ht, hq, hsub, hobj⟩ := hmeets s q o rfl
      obtain ⟨δ, hδ, hγ, hagree⟩ := hext.split
      refine ⟨t, ht, hq, δ, ?_, ?_⟩
      · rw [unify_eq_some_iff hs]
        exact ⟨hδ, (value_term_congr hs hagree).trans hsub⟩
      · rw [unify_eq_some_iff ho]
        exact ⟨hγ, hobj⟩

/-- A triple pattern that is met stays met when more variables are bound. -/
theorem Meets.mono {s o : Expr} {q : Iri} (hp : (Pattern.triple s q o).isBasic)
    {vs : List Variable} (hext : β.ExtendedBy γ vs) (h : T.Meets β (.triple s q o)) :
    T.Meets γ (.triple s q o) := by
  obtain ⟨hs, ho⟩ : s.isTerm ∧ o.isTerm := by simpa [Pattern.isBasic] using hp
  obtain ⟨t, ht, hq, hsub, hobj⟩ := h
  exact ⟨t, ht, hq, value_term_mono hs hext hsub, value_term_mono ho hext hobj⟩

/-- A triple pattern is met alike by valuations that agree on its variables. -/
theorem Meets.of_agree {s o : Expr} {q : Iri} (hp : (Pattern.triple s q o).isBasic)
    (hagree : ∀ v ∈ (Pattern.triple s q o).vars, β v = γ v) (h : T.Meets γ (.triple s q o)) :
    T.Meets β (.triple s q o) := by
  obtain ⟨hs, ho⟩ : s.isTerm ∧ o.isTerm := by simpa [Pattern.isBasic] using hp
  obtain ⟨t, ht, hq, hsub, hobj⟩ := h
  simp only [Pattern.vars, List.mem_append] at hagree
  refine ⟨t, ht, hq, ?_, ?_⟩
  · rw [value_term_congr hs fun v hv => hagree v (.inl hv), hsub]
  · rw [value_term_congr ho fun v hv => hagree v (.inr hv), hobj]

theorem mem_joins_iff {g : Group} (hg : ∀ p ∈ g, p.isBasic) :
    γ ∈ T.joins β g ↔
      β.ExtendedBy γ g.vars ∧ ∀ s q o, Pattern.triple s q o ∈ g → T.Meets γ (.triple s q o) := by
  induction g generalizing β with
  | nil => simp [joins, Group.vars, Valuation.extendedBy_nil_iff]
  | cons p ps ih =>
    have hp : p.isBasic := hg p List.mem_cons_self
    have hps : ∀ q ∈ ps, q.isBasic := fun q hq => hg q (List.mem_cons_of_mem _ hq)
    simp only [joins, List.mem_flatMap, mem_extensions_iff hp, ih hps]
    constructor
    · rintro ⟨δ, ⟨hδ, hmeets⟩, hγ, hrest⟩
      refine ⟨by simpa [Group.vars] using hδ.trans hγ, fun s q o hmem => ?_⟩
      rcases List.mem_cons.mp hmem with rfl | hmem
      · exact (hmeets s q o rfl).mono hp hγ
      · exact hrest s q o hmem
    · rintro ⟨hext, hmeets⟩
      have hext' : β.ExtendedBy γ (p.vars ++ Group.vars ps) := by simpa [Group.vars] using hext
      obtain ⟨δ, hδ, hγ, hagree⟩ := hext'.split
      refine ⟨δ, ⟨hδ, ?_⟩, hγ, fun s q o hmem => hmeets s q o (List.mem_cons_of_mem _ hmem)⟩
      rintro s q o rfl
      exact (hmeets s q o List.mem_cons_self).of_agree hp hagree

theorem conditions_iff (γ : Valuation) (g : Group) :
    T.conditions γ g = true ↔ ∀ e, Pattern.filter e ∈ g → T.IsTrue γ e := by
  induction g with
  | nil => simp [conditions]
  | cons p ps ih => cases p <;> simp [conditions, condition, ih, IsTrue]

/-- The solutions of a group are the assignments to its unbound variables under which every triple
is in the store and every filter is true. -/
theorem mem_solutions_iff {g : Group} (hg : ∀ p ∈ g, p.isBasic) :
    γ ∈ T.solutions β g ↔ β.ExtendedBy γ g.vars ∧ ∀ p ∈ g, T.Meets γ p := by
  simp only [solutions, List.mem_filter, mem_joins_iff hg, conditions_iff, and_assoc]
  refine and_congr_right fun _ => ⟨?_, fun h => ⟨fun s q o => h _, fun e => h _⟩⟩
  rintro ⟨htriples, hfilters⟩ p hp
  cases p with
  | triple s q o => exact htriples s q o hp
  | filter e => exact hfilters e hp
  | _ => trivial

/-- `EXISTS` is true when the unbound variables of its group can be assigned so. -/
theorem isTrue_holds_iff {g : Group} (hg : ∀ p ∈ g, p.isBasic) :
    T.IsTrue β (.holds g) ↔ ∃ γ, β.ExtendedBy γ g.vars ∧ ∀ p ∈ g, T.Meets γ p := by
  simp only [← mem_solutions_iff hg, solutions, List.mem_filter, IsTrue, value,
    Option.some.injEq, Node.bool.injEq, List.any_eq_true]

end Store

end ContactGraph
