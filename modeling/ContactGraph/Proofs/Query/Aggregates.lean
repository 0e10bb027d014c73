import ContactGraph.Proofs.Query.Layout
import ContactGraph.Proofs.Result.Packed
import ContactGraph.Proofs.Store.Truth

/-!
# What collected columns hold

The cell of a detail that can be many is an aggregate over the resources of the detail, one for each
chain that leads to them (`exprs_multiColumns`). `Aggregate` keeps apart what such a cell is made
of : the patterns that lead to a resource, and one expression for each part of an instance. Over a
store whose resources are told in parts by texts, the cell has these texts joined by the separators
of fields and of details (`value_guarded_expr`), and it is empty without resources.
-/

namespace ContactGraph.Query

variable {d : DetailDefinition} {n first : Nat}

/-! ## Aggregates -/

/-- What the cell of a detail that can be many is made of. -/
structure Aggregate where
  /-- The patterns that lead to a resource of the detail. -/
  group : Group
  /-- The texts of the parts of an instance. -/
  parts : List Expr

/-- The expression of a cell. -/
def Aggregate.expr (a : Aggregate) : Expr :=
  collect (instanceExpr a.parts) Packed.detail a.group

/-- What the cell of the resources at the end of a chain is made of. -/
def aggregateOf (d : DetailDefinition) (tokens : List Token) (chain : List Property) :
    Fresh Aggregate := do
  let w ← walk (startOf d) chain
  let graph ← ownerGraph d chain w
  let parts ← tokenExprs d w.target graph tokens
  pure ⟨w.group, parts⟩

/-- What the cells of the resources at the ends of several chains are made of. -/
def aggregatesOf (d : DetailDefinition) (tokens : List Token) :
    List (List Property) → Fresh (List Aggregate)
  | [] => pure []
  | chain :: chains => do
    let a ← aggregateOf d tokens chain
    let rest ← aggregatesOf d tokens chains
    pure (a :: rest)

/-- The chains of a detail that can be many : its own, then those of its sub-types. -/
def columnChains (d : DetailDefinition) : List (List Property) :=
  d.chain :: (propertyTypes d).map fun t => lastOver t.iri d.chain

/-- What the columns of a detail that can be many are made of. -/
def aggregates (d : DetailDefinition) : Fresh (List Aggregate) :=
  aggregatesOf d (tokensOf d) (columnChains d)

theorem aggregate_eq (tokens : List Token) (chain : List Property) :
    aggregate d tokens chain n =
      ((aggregateOf d tokens chain n).1.expr, (aggregateOf d tokens chain n).2) :=
  rfl

theorem multiSubTypes_eq (tokens : List Token) (types : List Labelled) :
    (multiSubTypes d tokens types n).1 =
      (aggregatesOf d tokens (types.map fun t => lastOver t.iri d.chain) n).1.map fun a =>
        guarded d a.expr := by
  induction types generalizing n with
  | nil => rfl
  | cons t ts ih =>
    show guarded d (aggregate d tokens (lastOver t.iri d.chain) n).1 ::
      (multiSubTypes d tokens ts (aggregate d tokens (lastOver t.iri d.chain) n).2).1 = _
    rw [ih, aggregate_eq]
    rfl

/-- Each column of a detail that can be many is the aggregate of its chain. -/
theorem exprs_multiColumns (d : DetailDefinition) (first n : Nat) :
    (multiColumns d first n).1.1 = (aggregates d n).1.map fun a => guarded d a.expr := by
  unfold multiColumns aggregates columnChains propertyTypes
  cases d.propertySubTypes with
  | none => rfl
  | some p =>
    show guarded d (aggregate d (tokensOf d) d.chain n).1 ::
      (multiSubTypes d (tokensOf d) p.2 (aggregate d (tokensOf d) d.chain n).2).1 = _
    rw [multiSubTypes_eq, aggregate_eq]
    rfl

theorem length_tokenExprs (resource : Variable) (graph : Option Expr) (tokens : List Token) :
    (tokenExprs d resource graph tokens n).1.length = tokens.length := by
  induction tokens generalizing n with
  | nil => rfl
  | cons t ts ih => exact congrArg (· + 1) ih

/-- There is one part for each token. -/
theorem length_parts_of_mem (tokens : List Token) {chains : List (List Property)} {a : Aggregate}
    (ha : a ∈ (aggregatesOf d tokens chains n).1) : a.parts.length = tokens.length := by
  induction chains generalizing n with
  | nil => exact absurd ha List.not_mem_nil
  | cons chain chains ih =>
    rcases List.mem_cons.mp ha with rfl | ha
    · exact length_tokenExprs _ _ tokens
    · exact ih ha

end ContactGraph.Query

namespace ContactGraph.Store

open Query

variable {T : Store} {β : Valuation} {rows : List Valuation}

/-! ## Values of cells -/

theorem mapM_id_some (texts : List String) :
    ((texts.map fun t => some (Node.text t)).mapM fun x => x) = some (texts.map Node.text) := by
  induction texts with
  | nil => rfl
  | cons t ts ih => simp [List.mapM_cons, ih]

theorem map_str_text (texts : List String) : (texts.map Node.text).map Node.str = texts := by
  rw [List.map_map]
  exact List.map_id texts

theorem value_concat {es : List Expr} {texts : List String}
    (h : es.map (T.value rows β) = texts.map fun t => some (.text t)) :
    T.value rows β (Expr.concat es) = some (.text (String.join texts)) := by
  simp only [Expr.concat, value, call, builtin?_concat, runBuiltin, values_eq_map, h, mapM_id_some,
    Option.map_some, map_str_text]

theorem map_value_intersperse {es : List Expr} {texts : List String} (sep : String)
    (h : es.map (T.value rows β) = texts.map fun t => some (.text t)) :
    (es.intersperse (Expr.text sep)).map (T.value rows β) =
      (texts.intersperse sep).map fun t => some (.text t) := by
  induction es generalizing texts with
  | nil => rw [List.map_eq_nil_iff.mp h.symm]; rfl
  | cons e es ih =>
    obtain ⟨t, ts, rfl, he, hes⟩ := List.map_eq_cons_iff.mp h.symm
    cases es with
    | nil => rw [List.map_eq_nil_iff.mp hes]; simp [he]
    | cons e' es =>
      obtain ⟨t', ts, rfl, -, -⟩ := List.map_eq_cons_iff.mp hes
      rw [List.intersperse_cons_cons, List.intersperse_cons_cons, List.map_cons, List.map_cons,
        ih hes.symm, ← he]
      simp [Expr.text, value]

/-- The text of an instance is the texts of its parts with field separators between them. -/
theorem value_instanceExpr {es : List Expr} {texts : List String}
    (h : es.map (T.value rows β) = texts.map fun t => some (.text t)) :
    T.value rows β (instanceExpr es) = some (.text (Packed.join Packed.field texts)) := by
  have hconcat := value_concat (map_value_intersperse (separator Packed.field) h)
  rw [separator, Packed.join_intersperse] at hconcat
  match es with
  | [] => exact hconcat
  | [e] =>
    -- a single part stands for itself
    obtain ⟨t, ts, rfl, he, hnil⟩ := List.map_eq_cons_iff.mp h.symm
    rw [List.map_eq_nil_iff.mp hnil, Packed.join, String.intercalate_singleton]
    exact he.symm
  | _ :: _ :: _ => exact hconcat

/-- An aggregate joins the values of all ways to meet its group; without any it has no value. -/
theorem selected_groupConcat {e : Expr} {g : Group} {items : List String} (sep : String)
    (h : (T.solutions β g).map (fun ρ => T.value [] ρ e) = items.map fun s => some (.text s)) :
    T.selected β (Select.scalar (.groupConcat e sep) g) =
      if items = [] then none else some (.text (String.intercalate sep items)) := by
  have hmapM : (T.solutions β g).mapM (fun ρ => T.value [] ρ e) = some (items.map Node.text) := by
    rw [← mapM_id_some, ← h, List.mapM_map]
    rfl
  rw [Select.scalar, selected, upTo, ← solutions]
  cases hrows : T.solutions β g with
  | nil =>
    rw [hrows, List.map_nil] at h
    rw [if_pos (List.map_eq_nil_iff.mp h.symm)]
  | cons ρ ρs =>
    have hitems : items ≠ [] := by
      rintro rfl
      simp [hrows] at h
    rw [hrows] at hmapM
    simp only [values, value, hmapM, Option.map_some, map_str_text, List.head?_cons,
      Option.join_some, if_neg hitems]

/-- A collected cell holds the texts of all ways to meet its group, and none without any. -/
theorem value_collect {e : Expr} {g : Group} {items : List String} (sep : Char)
    (h : (T.solutions β g).map (fun ρ => T.value [] ρ e) = items.map fun s => some (.text s)) :
    T.value rows β (collect e sep g) = some (.text (Packed.join sep items)) := by
  simp only [collect, Expr.orEmpty, value, values, call, builtin?_coalesce, runBuiltin,
    selected_groupConcat (separator sep) h]
  split
  · next hitems => simp [hitems, Expr.text, value, Packed.join]
  · rfl

/-- Two lists whose elements agree one by one in some way also agree in ways that follow from it. -/
theorem map_eq_map_of_imp {α γ δ ε : Type} {f : α → δ} {g : γ → δ} {f' : α → ε} {g' : γ → ε}
    {xs : List α} {ys : List γ} (himp : ∀ x y, f x = g y → f' x = g' y)
    (h : xs.map f = ys.map g) : xs.map f' = ys.map g' := by
  induction xs generalizing ys with
  | nil => rw [List.map_eq_nil_iff.mp h.symm, List.map_nil, List.map_nil]
  | cons x xs ih =>
    obtain ⟨y, ys, rfl, hx, hxs⟩ := List.map_eq_cons_iff.mp h.symm
    rw [List.map_cons, List.map_cons, himp x y hx.symm, ih hxs.symm]

/-- An aggregate holds the parts of all its instances. -/
theorem value_expr {a : Aggregate} {texts : List (List String)}
    (h : (T.solutions β a.group).map (fun ρ => a.parts.map (T.value [] ρ)) =
      texts.map (List.map fun t => some (.text t))) :
    T.value rows β a.expr = some (.text (Packed.cell texts)) := by
  refine value_collect Packed.detail ?_
  rw [List.map_map]
  exact map_eq_map_of_imp (fun _ _ hparts => value_instanceExpr hparts) h

/-- The ways to reach a resource of a detail : none for a contact without the affiliation that the
detail needs. -/
def resources (T : Store) (d : DetailDefinition) (β : Valuation) (a : Aggregate) : List Valuation :=
  if d.hasContext && (β contextVar).isNone then [] else T.solutions β a.group

/-- When the resources of a detail are told in parts by texts, its cell holds these texts. -/
theorem value_guarded_expr {d : DetailDefinition} {a : Aggregate} {texts : List (List String)}
    (h : (T.resources d β a).map (fun ρ => a.parts.map (T.value [] ρ)) =
      texts.map (List.map fun t => some (.text t))) :
    T.value rows β (guarded d a.expr) = some (.text (Packed.cell texts)) := by
  unfold guarded
  unfold resources at h
  cases hcontext : d.hasContext with
  | false =>
    rw [hcontext] at h
    exact value_expr h
  | true =>
    rw [hcontext] at h
    cases hbound : β contextVar with
    | none =>
      rw [hbound] at h
      rw [List.map_eq_nil_iff.mp h.symm]
      simp [value, hbound, Expr.text, Packed.cell, Packed.join]
    | some x =>
      rw [hbound] at h
      simpa [value, hbound] using value_expr h

end ContactGraph.Store
