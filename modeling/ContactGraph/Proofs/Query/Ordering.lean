import ContactGraph.Proofs.Query.Attempt
import ContactGraph.Query.Plan

/-!
# Which sort orders the store follows

`SortOrder.IsEvaluable` says when the store can sort by a sort order. It is just when
`orderConditions` gives conditions, so a query for ids is refused just for its filter or for such an
order (`idSelect_eq_error_iff`). A query for contacts of given ids is never refused
(`exists_plan_ids`).
-/

namespace ContactGraph

open Query

/-- Whether the store can sort by a sort order : without letter case and with blanks first, by a
detail without definition or by a field whose values have an order. -/
def SortOrder.IsEvaluable (schema : Schema) (o : SortOrder) : Prop :=
  isStoreOrder o = true ∧ ∀ d, schema.detail? o.detail = some d →
    d.computed = false ∧ (orderedField? d o.field).isSome = true

namespace Query

variable {schema : Schema} {n : Nat}

theorem orderKey?_isSome_iff {o : SortOrder} :
    (orderKey? schema o n).1.isSome = true ↔ o.IsEvaluable schema := by
  rw [orderKey?, SortOrder.IsEvaluable]
  by_cases hstore : isStoreOrder o = true
  · rw [hstore, Bool.not_true, if_neg Bool.false_ne_true, eq_self, true_and]
    cases schema.detail? o.detail with
    | none => exact iff_of_true rfl nofun
    | some d =>
      simp only [Option.some.injEq, forall_eq']
      split
      · rename_i hcomputed
        exact iff_of_false Bool.false_ne_true fun h => absurd hcomputed (by simp [h.1])
      · rename_i hcomputed
        cases orderedField? d o.field with
        | none => exact iff_of_false Bool.false_ne_true fun h => Bool.false_ne_true h.2
        | some f => exact iff_of_true rfl ⟨Bool.eq_false_iff.mpr hcomputed, rfl⟩
  · rw [if_pos (by simpa using hstore)]
    exact iff_of_false Bool.false_ne_true fun h => hstore h.1

theorem orderConditions_cons_fst (o : SortOrder) (os : List SortOrder) :
    (orderConditions schema (o :: os) n).1 = (orderKey? schema o n).1.bind fun key =>
      (orderConditions schema os (orderKey? schema o n).2).1.map fun cs =>
        .mk key (o.direction = .descending) :: cs := by
  show (StateT.bind (orderKey? schema o) _ n).1 = _
  rw [StateT.bind]
  cases orderKey? schema o n with
  | mk key m => cases key <;> rfl

theorem orderConditions_isSome_iff {orders : List SortOrder} :
    (orderConditions schema orders n).1.isSome = true ↔ ∀ o ∈ orders, o.IsEvaluable schema := by
  induction orders generalizing n with
  | nil => exact iff_of_true rfl nofun
  | cons o os ih =>
    rw [List.forall_mem_cons, ← orderKey?_isSome_iff (n := n), ← ih (n := (orderKey? schema o n).2),
      orderConditions_cons_fst]
    cases (orderKey? schema o n).1 <;> simp

/-- The store follows all orders but for one that it cannot sort by. -/
theorem orderConditions_eq_none_iff {orders : List SortOrder} :
    (orderConditions schema orders n).1 = none ↔ ∃ o ∈ orders, ¬ o.IsEvaluable schema := by
  rw [← Option.not_isSome_iff_eq_none, orderConditions_isSome_iff]
  simp

variable {s : Scope} {request : Request}

/-- A query for ids is refused for its filter or, when that is accepted, for an order. -/
theorem idSelect_eq_error_iff {r : Rejection} : idSelect s request = .error r ↔
    restriction s request.filter 0 = .error r ∨
      (∃ e m, restriction s request.filter 0 = .ok (e, m)) ∧
        (∃ o ∈ request.sorting, ¬ o.IsEvaluable s.schema) ∧ r = .orderUnknown := by
  rw [idSelect, Attempt.map_fst_eq_error_iff, idSelectFrom, Attempt.bind_eq_error_iff]
  refine or_congr_right ⟨?_, ?_⟩
  · rintro ⟨e, m, hok, h⟩
    rw [accept_bind] at h
    cases hkeys : (orderConditions s.schema request.sorting m).1 with
    | none =>
      rw [hkeys] at h
      exact ⟨⟨e, m, hok⟩, orderConditions_eq_none_iff.mp hkeys, (reject_eq_error_iff.mp h).symm⟩
    | some order =>
      rw [hkeys] at h
      exact absurd h Attempt.pure_ne_error
  · rintro ⟨⟨e, m, hok⟩, horder, rfl⟩
    refine ⟨e, m, hok, ?_⟩
    rw [accept_bind, orderConditions_eq_none_iff.mpr horder]
    rfl

/-- A query for ids is there when the filter is accepted and the store follows every order. -/
theorem exists_idSelect {e : Expr} {m : Nat} (hfilter : restriction s request.filter 0 = .ok (e, m))
    (horders : ∀ o ∈ request.sorting, o.IsEvaluable s.schema) :
    ∃ select, idSelect s request = .ok select := by
  cases hselect : idSelect s request with
  | ok select => exact ⟨select, rfl⟩
  | error r =>
    rcases idSelect_eq_error_iff.mp hselect with hrefused | ⟨-, ⟨o, ho, hrefused⟩, -⟩
    · simp [hfilter] at hrefused
    · exact absurd (horders o ho) hrefused

/-- A query for ids is refused when the store cannot follow an order. -/
theorem idSelect_eq_error (h : ∃ o ∈ request.sorting, ¬ o.IsEvaluable s.schema) :
    ∃ rejection, idSelect s request = .error rejection := by
  cases hfilter : restriction s request.filter 0 with
  | error r => exact ⟨r, idSelect_eq_error_iff.mpr (.inl hfilter)⟩
  | ok r => exact ⟨.orderUnknown, idSelect_eq_error_iff.mpr (.inr ⟨⟨r.1, r.2, hfilter⟩, h, rfl⟩)⟩

/-- The query for contacts of ids is there, and the order it is asked for is none. -/
theorem exists_plan_ids (s : Scope) (id : LocalId) (ids : List LocalId) (hint : FetchHint) :
    ∃ p, plan s { filter := .ids (id :: ids), sorting := [], hint } = .ok p ∧
      p.schema = s.schema ∧ p.sorted = true :=
  ⟨_, rfl, rfl, rfl⟩

end Query

end ContactGraph
