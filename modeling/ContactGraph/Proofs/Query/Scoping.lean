import ContactGraph.Proofs.Query.FilterVariables
import ContactGraph.Proofs.Query.Partition

/-!
# Scopes of variables in a query

The columns of a query, the condition of its filter and the keys of its order are made with one
counter, one after the other. `Plan.IsScoped` : two of these items share no variable but the contact
and its affiliation, and neither do two leaves of the condition. So a variable made up for one item
never joins it to another. Any other variable of an item stands inside a group of this item that
binds it. Every plan is scoped (`isScoped_of_plan`).
-/

namespace ContactGraph.Query

open Vocabulary

variable {s : Scope} {request : Request} {p : Plan} {n m : Nat}

/-- Two of the expressions share no variable but the contact and its affiliation. -/
def Separate (es : List Expr) : Prop :=
  es.Pairwise fun e f => ∀ v ∈ e.mentioned, v ∈ f.mentioned → v = contactVar ∨ v = contextVar

/-- Outside of groups that bind it no variable stands in an expression but the contact and its
affiliation. -/
def Expr.Closed (e : Expr) : Prop :=
  ∀ v ∈ e.free, v = contactVar ∨ v = contextVar

/-- The items of a query with a condition : its columns, the condition and the keys of its order. -/
def Plan.items (p : Plan) (condition : Expr) : List Expr :=
  p.select.columns ++ [condition] ++ p.select.order.map (·.key)

/-- The patterns of a query that do not depend on what is asked for. -/
def fixedPatterns (s : Scope) : Group :=
  basePatterns s.schema s.settings ++ [affiliationPattern]

/-- The variables of a query with a tree of conditions are told apart. -/
structure Plan.IsScoped (p : Plan) (s : Scope) (c : Condition) : Prop where
  /-- The patterns are the fixed ones and the condition. -/
  group_eq : p.select.group = fixedPatterns s ++ conditionPatterns c.expr
  /-- The fixed patterns are about the contact and its affiliation. -/
  fixed : ∀ v ∈ mentionsOfGroup false (fixedPatterns s), v = contactVar ∨ v = contextVar
  /-- No two items share a variable that was made up. -/
  items : Separate (p.items c.expr)
  /-- No two leaves do. -/
  leaves : Separate c.leaves
  /-- What was made up for an item is bound in it. -/
  closed_items : ∀ e ∈ p.items c.expr, e.Closed
  /-- What was made up for a leaf is bound in it. -/
  closed_leaves : ∀ e ∈ c.leaves, e.Closed

theorem mem_sharedVars_iff {v : Variable} : v ∈ sharedVars ↔ v = contactVar ∨ v = contextVar := by
  simp [sharedVars]

theorem Expr.Uses.closed {e : Expr} {lo hi : Nat} (he : e.Uses sharedVars lo hi) : e.Closed := by
  intro v hv
  rcases he true v hv with hin | hmade
  · exact mem_sharedVars_iff.mp hin
  · exact absurd hmade.1.symm Bool.false_ne_true

theorem Apart.separate {es : List Expr} {lo hi : Nat} (h : Apart sharedVars lo hi es) :
    Separate es :=
  h.pairwise.imp fun hshare v hv hv' => mem_sharedVars_iff.mp (hshare v hv hv')

theorem apart_baseColumns : Apart sharedVars n n baseColumns := by
  have hlabel : (Expr.call Rdf.label [.var contextVar]).Uses sharedVars n n :=
    .call (by simpa using Expr.Uses.var contextVar_mem) _
  exact ⟨n, Nat.le_refl n, .var contactVar_mem, n, Nat.le_refl n, .idOf (.var contactVar_mem),
    n, Nat.le_refl n, .var contextVar_mem, .singleton (Nat.le_refl n) hlabel⟩

theorem mem_fixedPatterns {v : Variable} (h : v ∈ mentionsOfGroup false (fixedPatterns s)) :
    v = contactVar ∨ v = contextVar := by
  obtain ⟨pattern, hpattern, hv⟩ := mem_mentionsOfGroup_iff.mp h
  simp only [fixedPatterns, basePatterns, List.mem_append, List.mem_map,
    List.mem_singleton] at hpattern
  rcases hpattern with (⟨c, -, rfl⟩ | hself) | rfl
  · left
    simpa using hv
  · split at hself
    · cases hself
    · rw [List.mem_singleton.mp hself] at hv
      left
      simpa using hv
  · simpa [affiliationPattern, edge, outside] using hv

/-- The keys of an order are apart, also when there are none since the store cannot follow it. -/
theorem apart_keys {schema : Schema} {orders : List SortOrder}
    {order : Option (List OrderCondition)} (h : orderConditions schema orders n = (order, m)) :
    Apart sharedVars n m ((order.getD []).map (·.key)) := by
  obtain ⟨hle, hkeys⟩ := (yields_orderConditions schema orders).of_eq h
  cases order with
  | none => exact hle
  | some cs => exact hkeys cs rfl

/-- Every plan tells its variables apart. -/
theorem isScoped_of_plan (h : plan s request = .ok p) :
    ∃ n m c, conditionTree s request.filter n = .ok (c, m) ∧ p.IsScoped s c := by
  obtain ⟨l, hp⟩ := exists_planFrom_of_plan h
  rw [planFrom] at hp
  simp only [Attempt.bind_eq_ok_iff, accept_eq_ok_iff, Attempt.pure_eq_ok_iff] at hp
  obtain ⟨⟨details, bindings⟩, m₁, hdetails, custom, m₂, hcustom, edges, m₃, hedges, e, m₄, he,
    order, m₅, horder, hp⟩ := hp
  obtain ⟨rfl, -⟩ := Prod.mk.inj hp
  obtain ⟨c, hc, rfl⟩ := exists_conditionTree he
  obtain ⟨hle, hleaves⟩ := yields_conditionTree s m₃ request.filter c m₄ hc
  have hcondition : c.expr.Uses sharedVars m₃ m₄ := c.uses_expr fun e he => hleaves.uses_of_mem he
  -- each part is made from the count on where the one in front of it stopped
  have hcolumns : Apart sharedVars 0 m₃ (baseColumns ++ details ++ custom ++ edges) :=
    ((apart_baseColumns.append ((yields_bindDetails _ _).of_eq hdetails).2).append
      ((yields_customPart _ _ _).of_eq hcustom).2).append
      ((yields_relationshipPart _ _).of_eq hedges).2
  have hitems : Apart sharedVars 0 m₅ (baseColumns ++ details ++ custom ++ edges ++ [c.expr] ++
      (order.getD []).map (·.key)) :=
    (hcolumns.append (.singleton hle hcondition)).append (apart_keys horder)
  exact ⟨m₃, m₄, c, hc, {
    group_eq := List.append_cons ..
    fixed := fun v hv => mem_fixedPatterns hv
    items := hitems.separate
    leaves := hleaves.separate
    closed_items := fun e he => (hitems.uses_of_mem he).closed
    closed_leaves := fun e he => (hleaves.uses_of_mem he).closed }⟩

/-- A request for groups with a 5 in a phone number that belong together with contact 3 or have an
`a` as first name, in the order of their phone numbers. -/
def relatedRequest : Request :=
  { filter := .intersection [
      .fieldIs Names.phoneNumber Names.phoneNumber (.text "5") ⟨.contains, false⟩,
      .union [.hasMember 3 .either, .fieldIs Names.name Names.firstName (.text "a") {}]]
    sorting := [{
      detail := Names.phoneNumber, field := Names.phoneNumber, caseSensitive := false
      blanks := .first }] }

/-- The columns of groups, the condition and the key of the order use different variables. -/
theorem isScoped_relatedRequest : ∃ p n m c, plan layoutScope relatedRequest = .ok p ∧
    p.select.columns.length = 12 ∧ p.select.order.length = 1 ∧
    conditionTree layoutScope relatedRequest.filter n = .ok (c, m) ∧ p.IsScoped layoutScope c := by
  obtain ⟨p, hp, hcolumns, horder⟩ : ∃ p, plan layoutScope relatedRequest = .ok p ∧
      p.select.columns.length = 12 ∧ p.select.order.length = 1 := ⟨_, rfl, rfl, rfl⟩
  obtain ⟨n, m, c, hc, hscoped⟩ := isScoped_of_plan hp
  exact ⟨p, n, m, c, hp, hcolumns, horder, hc, hscoped⟩

end ContactGraph.Query
