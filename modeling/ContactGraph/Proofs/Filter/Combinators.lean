import ContactGraph.Proofs.Query.Attempt

/-!
# Flat and nested combinations of filters

`Filter.and` and `Filter.or` add a condition to the parts of an intersection or a union that is
there already, so a chain of them is one flat filter. Its expression is that of the intersections or
unions of two that the chain stands for, with the same variables and refused for the same reason
(`restriction_join`) : expressions are joined from the left. Only a first filter without parts makes
a difference to the text, since the constant it stands for is left out of the flat filter; the
expressions are then true together (`Agree`).
-/

namespace ContactGraph

open Query

/-! ## Intersections and unions -/

/-- The two ways to combine filters. -/
inductive Junction where
  /-- All of the filters. -/
  | intersection
  /-- Any of the filters. -/
  | union
  deriving DecidableEq, Repr

namespace Junction

/-- The filter of some parts. -/
def node : Junction → List Filter → Filter
  | .intersection => .intersection
  | .union => .union

/-- A filter combined with one more. -/
def join : Junction → Filter → Filter → Filter
  | .intersection => .and
  | .union => .or

/-- The operator between the expressions of the parts. -/
def operator : Junction → Operator
  | .intersection => .and
  | .union => .or

/-- What no parts at all come to. -/
def unit : Junction → Bool
  | .intersection => true
  | .union => false

/-- The expression of some parts. -/
def fold (j : Junction) (es : List Expr) : Expr :=
  Expr.joinWith j.operator j.unit es

/-- A filter combined with others, one after the other. -/
def chain (j : Junction) (f : Filter) (gs : List Filter) : Filter :=
  gs.foldl j.join f

/-- The combinations of two that a chain stands for. -/
def nested (j : Junction) (f : Filter) (gs : List Filter) : Filter :=
  gs.foldl (fun acc g => j.node [acc, g]) f

variable {j : Junction} {f g : Filter}

theorem join_node (j : Junction) (fs : List Filter) (g : Filter) :
    j.join (j.node fs) g = j.node (fs ++ [g]) := by
  cases j <;> rfl

theorem join_of_forall_ne (h : ∀ fs, f ≠ j.node fs) (g : Filter) : j.join f g = j.node [f, g] := by
  cases j with
  | intersection =>
    cases f with
    | intersection fs => exact absurd rfl (h fs)
    | _ => rfl
  | union =>
    cases f with
    | union fs => exact absurd rfl (h fs)
    | _ => rfl

theorem node_injective (j : Junction) : Function.Injective j.node := by
  intro fs gs h
  cases j with
  | intersection => exact Filter.intersection.inj h
  | union => exact Filter.union.inj h

/-- A filter combined with another has parts. -/
theorem join_ne_node_nil (j : Junction) (f g : Filter) : j.join f g ≠ j.node [] := by
  intro h
  by_cases hf : ∃ fs, f = j.node fs
  · obtain ⟨fs, rfl⟩ := hf
    rw [join_node] at h
    exact List.append_ne_nil_of_right_ne_nil fs (List.cons_ne_nil g []) (node_injective j h)
  · rw [join_of_forall_ne (not_exists.mp hf)] at h
    exact List.cons_ne_nil f [g] (node_injective j h)

/-- The expression of more parts is that of the first ones with one more operator. -/
theorem fold_concat (j : Junction) {es : List Expr} (h : es ≠ []) (e : Expr) :
    j.fold (es ++ [e]) = j.fold [j.fold es, e] := by
  obtain ⟨e', es, rfl⟩ := List.exists_cons_of_ne_nil h
  simp [fold, Expr.joinWith, List.foldl_append]

end Junction

namespace Query

variable {s : Scope} {j : Junction} {f f' g : Filter} {n : Nat}

/-! ## Expressions of parts -/

theorem restriction_node (s : Scope) (j : Junction) (fs : List Filter) :
    restriction s (j.node fs) = restrictions s fs >>= fun es => pure (j.fold es) := by
  cases j with
  | intersection => rw [Junction.node, restriction]; rfl
  | union => rw [Junction.node, restriction]; rfl

theorem restrictions_concat (s : Scope) (fs : List Filter) (g : Filter) :
    restrictions s (fs ++ [g]) =
      restrictions s fs >>= fun es => restriction s g >>= fun e => pure (es ++ [e]) := by
  induction fs with
  | nil => simp [restrictions]
  | cons f fs ih => simp [restrictions, ih]

/-- The parts of a filter are walked one by one, and give an expression each. -/
theorem length_restrictions {fs : List Filter} {es : List Expr} {n' : Nat}
    (h : restrictions s fs n = .ok (es, n')) : es.length = fs.length := by
  induction fs generalizing es n n' with
  | nil =>
    obtain ⟨rfl, -⟩ := Prod.mk.inj (Except.ok.inj h)
    rfl
  | cons f fs ih =>
    obtain ⟨e, m, -, h⟩ := Attempt.bind_eq_ok_iff.mp h
    obtain ⟨es', m', hes, h⟩ := Attempt.bind_eq_ok_iff.mp h
    obtain ⟨rfl, -⟩ := Prod.mk.inj (Except.ok.inj h)
    rw [List.length_cons, List.length_cons, ih hes]

/-- Two parts, of which the first is attempted and then the second. -/
theorem restriction_pair (s : Scope) (j : Junction) (f g : Filter) :
    restriction s (j.node [f, g]) =
      restriction s f >>= fun e => restriction s g >>= fun e' => pure (j.fold [e, e']) := by
  simp [restriction_node, restrictions]

/-- A part more is as good as the combination of the parts with it, when there are parts. -/
theorem restriction_join_of_ne (hf : f ≠ j.node []) (g : Filter) :
    restriction s (j.join f g) = restriction s (j.node [f, g]) := by
  by_cases hnode : ∃ fs, f = j.node fs
  · obtain ⟨fs, rfl⟩ := hnode
    have hfs : fs ≠ [] := fun hnil => hf (congrArg j.node hnil)
    funext n
    rw [Junction.join_node, restriction_node, restrictions_concat, restriction_pair,
      restriction_node]
    simp only [bind_assoc, pure_bind]
    refine Attempt.bind_congr fun es m hes => ?_
    have hne : es ≠ [] := by
      rw [← List.length_pos_iff, length_restrictions hes]
      exact List.length_pos_iff.mpr hfs
    refine Attempt.bind_congr fun e m' _ => ?_
    rw [j.fold_concat hne]
  · rw [Junction.join_of_forall_ne (not_exists.mp hnode)]

/-! ## Truth of expressions -/

/-- Whether an expression is true, given which expressions that no operator of truth joins are. -/
def Expr.truth (given : Expr → Bool) : Expr → Bool
  | .bool b => b
  | .binary l .and r => l.truth given && r.truth given
  | .binary l .or r => l.truth given || r.truth given
  | e => given e

/-- Two attempts are refused for the same reason, or they leave the same variables and give
expressions that are true together, whichever of their conditions are. -/
inductive Agree : Except Rejection (Expr × Nat) → Except Rejection (Expr × Nat) → Prop
  /-- Both are refused. -/
  | refused (r : Rejection) : Agree (.error r) (.error r)
  /-- Both succeed. -/
  | accepted {e e' : Expr} {n : Nat} (h : ∀ given, e.truth given = e'.truth given) :
    Agree (.ok (e, n)) (.ok (e', n))

theorem Agree.refl (x : Except Rejection (Expr × Nat)) : Agree x x := by
  cases x with
  | error r => exact .refused r
  | ok r => exact .accepted fun _ => rfl

theorem Agree.trans {x y z : Except Rejection (Expr × Nat)} (h : Agree x y) (h' : Agree y z) :
    Agree x z := by
  cases h with
  | refused r => exact h'
  | accepted he =>
    cases h' with
    | accepted he' => exact .accepted fun given => (he given).trans (he' given)

theorem truth_fold_one (given : Expr → Bool) (e : Expr) :
    (j.fold [e]).truth given = e.truth given := by
  cases j <;> rfl

/-- What no parts come to changes nothing. -/
theorem truth_fold_unit (given : Expr → Bool) (e : Expr) :
    (j.fold [j.fold [], e]).truth given = e.truth given := by
  cases j with
  | intersection => exact Bool.true_and _
  | union => exact Bool.false_or _

/-- Two parts are as true as they are each. -/
theorem truth_fold_congr {given : Expr → Bool} {e e' x x' : Expr}
    (he : e.truth given = e'.truth given) (hx : x.truth given = x'.truth given) :
    (j.fold [e, x]).truth given = (j.fold [e', x']).truth given := by
  cases j with
  | intersection =>
    show (e.truth given && x.truth given) = (e'.truth given && x'.truth given)
    rw [he, hx]
  | union =>
    show (e.truth given || x.truth given) = (e'.truth given || x'.truth given)
    rw [he, hx]

/-- Two attempts followed by the same one agree as far as what follows does. -/
theorem Agree.bind {x x' : Attempt Expr} {F F' : Expr → Attempt Expr} (h : Agree (x n) (x' n))
    (hF : ∀ e e' m, (∀ given, e.truth given = e'.truth given) → Agree (F e m) (F' e' m)) :
    Agree ((x >>= F) n) ((x' >>= F') n) := by
  show Agree (x n >>= fun em => F em.1 em.2) (x' n >>= fun em => F' em.1 em.2)
  generalize x n = r, x' n = r' at h
  cases h with
  | refused err => exact .refused err
  | accepted he => exact hF _ _ _ he

/-- The combination with one more part goes by the truth of the filter alone. -/
theorem Agree.pair (h : Agree (restriction s f n) (restriction s f' n)) (g : Filter) :
    Agree (restriction s (j.node [f, g]) n) (restriction s (j.node [f', g]) n) := by
  rw [restriction_pair, restriction_pair]
  refine h.bind fun e e' m he => (Agree.refl _).bind fun x x' m' hx => .accepted fun given => ?_
  exact truth_fold_congr (he given) (hx given)

/-- A filter combined with one more agrees with the two as parts, whether it has parts or not. -/
theorem agree_join (s : Scope) (j : Junction) (f g : Filter) (n : Nat) :
    Agree (restriction s (j.join f g) n) (restriction s (j.node [f, g]) n) := by
  by_cases hf : f = j.node []
  · subst hf
    have hnil : restriction s (j.node []) = pure (j.fold []) := by
      simp [restriction_node, restrictions]
    have hone : restriction s (j.node [g]) = restriction s g >>= fun e => pure (j.fold [e]) := by
      simp [restriction_node, restrictions]
    rw [Junction.join_node, List.nil_append, hone, restriction_pair, hnil, pure_bind]
    refine (Agree.refl _).bind fun e e' m he => .accepted fun given => ?_
    rw [truth_fold_unit, truth_fold_one, he]
  · rw [restriction_join_of_ne hf]
    exact .refl _

/-! ## Chains -/

/-- A filter that agrees with another still does after a chain, taken flat and nested. -/
theorem agree_chain (h : Agree (restriction s f n) (restriction s f' n)) (gs : List Filter) :
    Agree (restriction s (j.chain f gs) n) (restriction s (j.nested f' gs) n) := by
  induction gs generalizing f f' with
  | nil => exact h
  | cons g gs ih => exact ih ((agree_join s j f g n).trans (h.pair g))

/-- A chain is as good as the nested combinations when the first filter is, and has parts. -/
theorem restriction_chain_of_ne (hf : f ≠ j.node []) (h : restriction s f = restriction s f')
    (gs : List Filter) : restriction s (j.chain f gs) = restriction s (j.nested f' gs) := by
  induction gs generalizing f f' with
  | nil => exact h
  | cons g gs ih =>
    refine ih (j.join_ne_node_nil f g) ?_
    rw [restriction_join_of_ne hf, restriction_pair, restriction_pair, h]

/-- Flat combinations of filters come to the same as nested ones, for intersections and unions
alike. A filter combined with another gives the expression of the two as parts, with the same
variables, or is refused for the same reason, unless it is a combination without parts itself. So
does a chain, however long, of the combinations of two that it stands for. A first filter without
parts is left out of the chain, and the expressions are true together. -/
theorem restriction_join (s : Scope) (j : Junction) :
    (∀ f g, f ≠ j.node [] → restriction s (j.join f g) = restriction s (j.node [f, g])) ∧
    (∀ f gs, f ≠ j.node [] → restriction s (j.chain f gs) = restriction s (j.nested f gs)) ∧
    ∀ f gs n, Agree (restriction s (j.chain f gs) n) (restriction s (j.nested f gs) n) :=
  ⟨fun _ g hf => restriction_join_of_ne hf g, fun _ gs hf => restriction_chain_of_ne hf rfl gs,
    fun _ gs _ => agree_chain (.refl _) gs⟩

/-- Three conditions in a row, one of them a union, are the first two and then the third. -/
theorem restriction_join_ids : Filter.ids [3] ≠ .intersection [] ∧
    restriction ⟨{ type := .person }, {}, {}⟩
        (((Filter.ids [3]).and (.union [.ids [9], .nothing])).and (.hasMember 5 .either)) =
      restriction ⟨{ type := .person }, {}, {}⟩ (.intersection
        [.intersection [.ids [3], .union [.ids [9], .nothing]], .hasMember 5 .either]) := by
  refine ⟨Filter.noConfusion, ?_⟩
  exact (restriction_join _ .intersection).2.1 (.ids [3])
    [.union [.ids [9], .nothing], .hasMember 5 .either] Filter.noConfusion

end Query

end ContactGraph
