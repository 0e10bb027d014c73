import ContactGraph.Proofs.Query.Ordering

/-!
# How a query ends

A query for contacts has no limit, so its text ends in the brace of its group or, when the store
sorts, in the parenthesis of its last sort key (`getLast?_print_of_plan`). A query that the store
sorts is therefore never the text of one that asks for no order (`text_ne_of_plan`).
-/

namespace ContactGraph.Query

variable {s : Scope} {request request' : Request} {p p' : Plan}

/-- Sort keys end in a parenthesis. -/
theorem getLast?_printConditions (c : OrderCondition) (cs : List OrderCondition) :
    (c.print ++ printConditions cs).getLast? = some ')' := by
  induction cs generalizing c with
  | nil =>
    obtain ⟨key, descending⟩ := c
    show (_ ++ [')'] ++ []).getLast? = some ')'
    rw [List.append_nil, List.getLast?_append, List.getLast?_singleton, Option.some_or]
  | cons d cs ih =>
    show (c.print ++ (d.print ++ printConditions cs)).getLast? = some ')'
    rw [List.getLast?_append, ih, Option.some_or]

/-- Without a limit, a query ends in its last sort key, and in its group when it has none. -/
theorem getLast?_print (columns : List Expr) (group : Group) (order : List OrderCondition) :
    (Select.mk columns group order none).print.getLast? =
      some (if order.isEmpty then '\x7d' else ')') := by
  show (_ ++ '\x7d' :: printOrder order ++ []).getLast? = _
  rw [List.append_nil, List.getLast?_append]
  cases order with
  | nil => rfl
  | cons c cs =>
    show (List.getLast? ('\x7d' :: (_ ++ c.print ++ printConditions cs))).or _ = some ')'
    rw [List.append_assoc, ← List.cons_append, List.getLast?_append, getLast?_printConditions,
      Option.some_or, Option.some_or]

/-- The store has a sort key when it follows the orders and there are any. -/
theorem isEmpty_orderConditions {schema : Schema} {orders : List SortOrder}
    (h : ∀ o ∈ orders, o.IsEvaluable schema) (n : Nat) :
    ((orderConditions schema orders n).1.getD []).isEmpty = orders.isEmpty := by
  cases orders with
  | nil => rfl
  | cons o os =>
    obtain ⟨cs, hcs⟩ := Option.isSome_iff_exists.mp (orderConditions_isSome_iff (n := n).mpr h)
    have hbind := (orderConditions_cons_fst ..).symm.trans hcs
    obtain ⟨key, -, hrest⟩ := Option.bind_eq_some_iff.mp hbind
    obtain ⟨conditions, -, rfl⟩ := Option.map_eq_some_iff.mp hrest
    rw [hcs, Option.getD_some, List.isEmpty_cons, List.isEmpty_cons]

/-- A query for contacts ends in a sort key when it is sorted and the store follows the orders. -/
theorem getLast?_print_of_plan (h : plan s request = .ok p)
    (horders : ∀ o ∈ request.sorting, o.IsEvaluable s.schema) :
    p.select.print.getLast? = some (if request.sorting.isEmpty then '\x7d' else ')') := by
  obtain ⟨m, hp⟩ := exists_planFrom_of_plan h
  rw [planFrom] at hp
  simp only [Attempt.bind_eq_ok_iff, accept_eq_ok_iff, Attempt.pure_eq_ok_iff] at hp
  obtain ⟨⟨details, bindings⟩, _, -, custom, _, -, edges, _, -, e, k, -, order, l, horder, hp⟩ := hp
  obtain ⟨rfl, -⟩ := Prod.mk.inj hp
  have hempty := isEmpty_orderConditions horders k
  rw [horder] at hempty
  rw [getLast?_print, hempty]

/-- A query that the store sorts differs from one that asks for no order. -/
theorem text_ne_of_plan (h : plan s request = .ok p) (h' : plan s request' = .ok p')
    (hsorted : request.sorting ≠ []) (horders : ∀ o ∈ request.sorting, o.IsEvaluable s.schema)
    (hunsorted : request'.sorting = []) : p.select.text ≠ p'.select.text := by
  intro htext
  have hkey : p.select.print.getLast? = some ')' := by
    rw [getLast?_print_of_plan h horders, if_neg (by simpa using hsorted)]
  have hgroup : p'.select.print.getLast? = some '\x7d' := by
    rw [getLast?_print_of_plan h' (by simp [hunsorted]), hunsorted, List.isEmpty_nil, if_pos rfl]
  rw [String.ofList_injective htext, hgroup] at hkey
  exact absurd (Option.some.inj hkey) (by decide)

end ContactGraph.Query
