import ContactGraph.Proofs.Query.ColumnVariables
import ContactGraph.Query.Ordering

/-!
# Variables of filters and orders

A condition on a contact starts at the contact and goes on over variables made up for it alone
(`yields_detailMatch` and its companions), and so does the key of an order. A filter is a tree of
such conditions : `conditionTree` keeps the tree, `restriction_eq` says that the expression of a
filter is made of it, and the leaves of the tree are `Apart` (`yields_conditionTree`).
-/

namespace ContactGraph.Query

open Vocabulary

variable {n lo hi : Nat} {outer : List Variable} {d : DetailDefinition} {f : FieldDefinition}
  {s : Scope}

/-! ## Values compared -/

theorem uses_modeExpr {subject wanted : Expr} (mode : MatchMode) (h : subject.Uses outer lo hi)
    (hwanted : wanted.Uses outer lo hi) : (modeExpr mode subject wanted).Uses outer lo hi := by
  have hpair : ∀ e ∈ [subject, wanted], e.Uses outer lo hi := by
    simpa using ⟨h, hwanted⟩
  cases mode
  case contains => exact .call hpair _
  case startsWith => exact .call hpair _
  case endsWith => exact .call hpair _
  all_goals exact .binary h hwanted .eq

theorem uses_textExpr {subject : Expr} (h : subject.Uses outer lo hi) (wanted : String)
    (flags : MatchFlags) : (textExpr subject wanted flags).Uses outer lo hi := by
  unfold textExpr
  split
  · exact uses_modeExpr flags.mode h.lowerCase (.text _)
  · exact uses_modeExpr flags.mode h (.text _)

theorem uses_literalOf (value : Value) : (literalOf value).Uses outer lo hi := by
  cases value <;> exact .literal _ _

theorem uses_valueExpr {v : Variable} (hv : v ∈ outer) (wanted : Value) (flags : MatchFlags) :
    (valueExpr v wanted flags).Uses outer lo hi := by
  have hsubject : (Expr.str (.var v)).Uses outer lo hi := .str (.var hv)
  cases wanted
  case text s => exact uses_textExpr hsubject s flags
  case url s => exact uses_textExpr hsubject s flags
  case list items =>
    refine .joinWith ?_ .or false
    rw [List.forall_mem_map]
    exact fun item _ => uses_textExpr hsubject item flags
  all_goals exact .binary (.var hv) (uses_literalOf _) .eq

theorem uses_idIn {v : Variable} (hv : v ∈ outer) (ids : List LocalId) :
    (idIn v ids).Uses outer lo hi := by
  refine .isIn (.idOf (.var hv)) ?_
  rw [List.forall_mem_map]
  exact fun _ _ => .integer _

/-- A condition on a value that patterns lead to. -/
theorem Reach.Uses.holds {r : Reach} {e : Expr} (hr : r.Uses outer lo hi)
    (he : e.Uses (outer ++ r.group.binds) lo hi) :
    (Expr.holds (r.group ++ [.filter e])).Uses outer lo hi :=
  .holds (hr.group.append (.filter he))

/-! ## Ways to values -/

theorem yields_reachField (d : DetailDefinition) (f : FieldDefinition) :
    (reachField d f).Yields n (Reach.Uses sharedVars n) := by
  refine (yields_walk d.fullChain contactVar_mem).bind fun m w hm hw => ?_
  split
  · refine (yields_freeProperty f.name hw.target).bind fun k r hk hr => Fresh.yields_pure ?_
    exact (hw.mono hk).group.reach (hr.mono hm)
  · refine (yields_walk f.chain hw.target).bind fun k v hk hv => Fresh.yields_pure ?_
    exact (hw.mono hk).group.reach (hv.reach.mono hm)

theorem yields_reachCustom (detail : String) (field : Option String) :
    (reachCustom detail field).Yields n (Reach.Uses sharedVars n) := by
  refine (yields_fresh n).bind fun m node hm hnode => ?_
  refine (yields_fresh m).bind fun k property hk hproperty => ?_
  refine (yields_fresh k).bind fun l value hl hvalue => Fresh.yields_pure ?_
  have hnode := hnode.mono (Nat.le_refl n) (hk.trans hl)
  have hproperty := hproperty.mono hm hl
  have hvalue := hvalue.mono (hm.trans hk) (Nat.le_refl l)
  have hfirst : Group.Uses sharedVars n l [edge contactVar Nao.hasProperty node] :=
    .edge (.inl contactVar_mem) (.inr hnode) _
  have hedges := hfirst.append (.append
    (.triple Nao.propertyName (s := .var node) (o := Expr.text detail) rfl rfl
      (by simp [Expr.termVars, Expr.text, hnode]))
    (.edge (.inr hnode) (.inr hproperty) Nao.hasProperty))
  refine Group.Uses.reach (hedges.append ?_) (r := ⟨[edge property Nao.propertyValue value], value⟩)
    ⟨.edge (.inr hproperty) (.inr hvalue) _, List.mem_append_right _ (mem_binds_edge ..)⟩
  cases field with
  | none => exact .nil
  | some name => exact .triple _ rfl rfl (by simp [Expr.termVars, Expr.text, hproperty])

/-! ## Conditions on details -/

theorem yields_fieldExists (d : DetailDefinition) (f : FieldDefinition) :
    (fieldExists d f).Yields n (Expr.Uses sharedVars n) :=
  (yields_reachField d f).bind fun _ _ _ hr => Fresh.yields_pure (.holds hr.group)

theorem yields_fieldsExist (d : DetailDefinition) (fs : List FieldDefinition) :
    (fieldsExist d fs).Yields n (Apart sharedVars n) := by
  induction fs generalizing n with
  | nil => exact Fresh.yields_pure (Nat.le_refl n)
  | cons f fs ih => exact yields_cons (yields_fieldExists d f) fun m => ih

theorem Apart.any {es : List Expr} (h : Apart outer lo hi es) : (Expr.any es).Uses outer lo hi :=
  .joinWith (fun _ he => h.uses_of_mem he) .or false

theorem yields_detailExists (d : DetailDefinition) :
    (detailExists d).Yields n (Expr.Uses sharedVars n) := by
  unfold detailExists
  split
  · exact (yields_fieldsExist d _).bind fun m es _ hes => Fresh.yields_pure hes.any
  · exact (yields_walk d.fullChain contactVar_mem).bind fun m w _ hw =>
      Fresh.yields_pure (.holds hw.group)

theorem yields_phoneMatch (s : Scope) (d : DetailDefinition) (value : Value) :
    (phoneMatch s d value).Yields n (Expr.Uses sharedVars n) := by
  refine (yields_walk d.fullChain contactVar_mem).bind fun m w hm hw => ?_
  refine (yields_fresh m).bind fun k v hk hv => Fresh.yields_pure (.holds ?_)
  refine (hw.mono hk).group.append (.append (.edge (.inl hw.target)
    (.inr (hv.mono hm (Nat.le_refl k))) _) (.filter (uses_textExpr (.str (.var ?_)) _ _)))
  exact List.mem_append_right _ (mem_binds_edge ..)

theorem yields_fieldMatch (s : Scope) (d : DetailDefinition) (f : FieldDefinition) (value : Value)
    (flags : MatchFlags) : (fieldMatch s d f value flags).Yields n (Expr.Uses sharedVars n) := by
  unfold fieldMatch
  split
  · exact yields_phoneMatch s d value
  · split
    · exact Fresh.yields_pure (.bool false)
    · refine (yields_reachField d f).bind fun m r _ hr => ?_
      split
      · exact Fresh.yields_pure (hr.holds (uses_valueExpr hr.value value flags))
      · split
        · exact Fresh.yields_pure (.bool false)
        · exact Fresh.yields_pure (hr.holds (uses_idIn hr.value _))

theorem yields_fieldMatches (s : Scope) (d : DetailDefinition) (value : Value) (flags : MatchFlags)
    (fs : List FieldDefinition) :
    (fieldMatches s d value flags fs).Yields n (Apart sharedVars n) := by
  induction fs generalizing n with
  | nil => exact Fresh.yields_pure (Nat.le_refl n)
  | cons f fs ih => exact yields_cons (yields_fieldMatch s d f value flags) fun m => ih

theorem yields_propertyMatches (d : DetailDefinition) (f : FieldDefinition)
    (types : List Labelled) : (propertyMatches d f types).Yields n (Apart sharedVars n) := by
  induction types generalizing n with
  | nil => exact Fresh.yields_pure (Nat.le_refl n)
  | cons t ts ih =>
    exact yields_cons ((yields_walk _ contactVar_mem).mono fun m w _ hw => .holds hw.group)
      fun m => ih

theorem yields_subTypeMatch (d : DetailDefinition) (f : FieldDefinition) (types : SubTypes)
    (value : Value) (flags : MatchFlags) :
    (subTypeMatch d f types value flags).Yields n (Expr.Uses sharedVars n) := by
  unfold subTypeMatch
  split
  · exact (yields_propertyMatches d f _).bind fun m es _ hes => Fresh.yields_pure hes.any
  · split
    · exact Fresh.yields_pure (.bool false)
    · refine (yields_walk d.fullChain contactVar_mem).bind fun m w hm hw => ?_
      refine (yields_fresh m).bind fun k type hk htype => Fresh.yields_pure (.holds ?_)
      refine (hw.mono hk).group.append (.append (.edge (.inl hw.target)
        (.inr (htype.mono hm (Nat.le_refl k))) _) (.filter (.isIn (.var ?_) ?_)))
      · exact List.mem_append_right _ (mem_binds_edge ..)
      · rw [List.forall_mem_map]
        exact fun t _ => .iri t.iri

theorem yields_contextMatch (d : DetailDefinition) (value : Option Value) :
    (contextMatch d value).Yields n (Expr.Uses sharedVars n) := by
  refine (yields_fresh n).bind fun m affiliation hm haffiliation => ?_
  have hbound := mem_binds_edge contactVar Nco.hasAffiliation affiliation
  refine (yields_walk d.chain (List.mem_append_right sharedVars hbound)).bind fun k w hk hw => ?_
  have hgroup : Group.Uses sharedVars n k
      (edge contactVar Nco.hasAffiliation affiliation :: w.group) :=
    (Group.Uses.edge (.inl contactVar_mem) (.inr (haffiliation.mono (Nat.le_refl n) hk)) _).append
      (hw.group.mono (fun _ hv => hv) hm (Nat.le_refl k))
  cases value with
  | none => exact Fresh.yields_pure (.holds hgroup)
  | some v =>
    refine (yields_fresh k).bind fun l label hl hlabel => Fresh.yields_pure (.holds ?_)
    have hsubject : affiliation ∈ sharedVars ++
        Group.binds (edge contactVar Nco.hasAffiliation affiliation :: w.group) := by
      rw [← List.singleton_append, binds_append]
      exact List.mem_append_right _ (List.mem_append_left _ hbound)
    refine (hgroup.mono (fun _ hv => hv) (Nat.le_refl n) hl).append (.append (.edge
      (.inl hsubject) (.inr (hlabel.mono (hm.trans hk) (Nat.le_refl l))) _)
      (.filter (uses_textExpr (.str (.var ?_)) _ _)))
    exact List.mem_append_right _ (mem_binds_edge ..)

theorem yields_customMatch (filter : DetailFilter) :
    (customMatch filter).Yields n (Expr.Uses sharedVars n) := by
  refine (yields_reachCustom filter.detail filter.field).bind fun m r _ hr => ?_
  split
  · exact Fresh.yields_pure (.holds hr.group)
  · exact Fresh.yields_pure (hr.holds (uses_valueExpr hr.value _ filter.flags))

theorem yields_anyFieldMatch (s : Scope) (d : DetailDefinition) (value : Option Value)
    (flags : MatchFlags) :
    (anyFieldMatch s d value flags).Yields n (Expr.Uses sharedVars n) := by
  unfold anyFieldMatch
  split
  · exact yields_detailExists d
  · exact (yields_fieldMatches s d _ flags _).bind fun m es _ hes => Fresh.yields_pure hes.any

theorem yields_oneFieldMatch (s : Scope) (d : DetailDefinition) (f : FieldDefinition)
    (value : Option Value) (flags : MatchFlags) :
    (oneFieldMatch s d f value flags).Yields n (Expr.Uses sharedVars n) := by
  unfold oneFieldMatch
  split
  · exact yields_fieldExists d f
  · exact yields_subTypeMatch d f _ _ flags
  · exact yields_fieldMatch s d f _ flags

theorem yields_definedMatch (s : Scope) (d : DetailDefinition) (filter : DetailFilter) :
    (definedMatch s d filter).Yields n (Expr.Uses sharedVars n) := by
  unfold definedMatch
  split
  · exact Attempt.yields_reject _
  · split
    · exact Attempt.yields_accept (yields_anyFieldMatch s d filter.value filter.flags)
    · split
      · split
        · exact Attempt.yields_accept (yields_contextMatch d filter.value)
        · exact Attempt.yields_reject _
      · split
        · exact Attempt.yields_reject _
        · split
          · exact Attempt.yields_reject _
          · exact Attempt.yields_accept (yields_oneFieldMatch s d _ filter.value filter.flags)

theorem yields_detailMatch (s : Scope) (filter : DetailFilter) :
    (detailMatch s filter).Yields n (Expr.Uses sharedVars n) := by
  unfold detailMatch
  split
  · refine Attempt.yields_pure ?_
    unfold typeMatch
    split <;> exact Expr.Uses.bool _
  · split
    · exact Attempt.yields_accept (yields_customMatch filter)
    · exact yields_definedMatch s _ filter

/-! ## Other conditions -/

theorem uses_rangeExprs (filter : RangeFilter) {v : Variable} (hv : v ∈ outer) (textual : Bool) :
    ∀ e ∈ rangeExprs filter v textual, e.Uses outer lo hi := by
  have hsubject (folds : Bool) :
      (if folds then Expr.lowerCase (.str (.var v)) else .var v).Uses outer lo hi := by
    split
    · exact .lowerCase (.str (.var hv))
    · exact .var hv
  have hoperand (folds : Bool) (value : Value) :
      (if folds then Expr.text (Text.lowercase value.toText) else literalOf value).Uses
        outer lo hi := by
    split
    · exact .text _
    · exact uses_literalOf value
  unfold rangeExprs
  rw [List.forall_mem_append, List.forall_mem_map, List.forall_mem_map]
  exact ⟨fun value _ => .binary (hoperand _ value) (hsubject _) _,
    fun value _ => .binary (hsubject _) (hoperand _ value) _⟩

theorem Reach.Uses.inRange {r : Reach} (hr : r.Uses outer lo hi) (filter : RangeFilter)
    (textual : Bool) : (Query.inRange filter r textual).Uses outer lo hi := by
  have hexprs : ∀ e ∈ rangeExprs filter r.value textual,
      e.Uses (outer ++ r.group.binds) lo hi := uses_rangeExprs filter hr.value textual
  unfold Query.inRange
  split
  · exact .holds hr.group
  · rename_i e es heq
    rw [heq] at hexprs
    exact hr.holds (.joinWith hexprs .and true)

theorem yields_rangeMatch (s : Scope) (filter : RangeFilter) :
    (rangeMatch s filter).Yields n (Expr.Uses sharedVars n) := by
  unfold rangeMatch
  split
  · exact Attempt.yields_accept ((yields_reachCustom _ _).bind fun m r _ hr =>
      Fresh.yields_pure (hr.inRange filter true))
  · split
    · exact Attempt.yields_reject _
    · exact Attempt.yields_accept ((yields_reachField _ _).bind fun m r _ hr =>
        Fresh.yields_pure (hr.inRange filter _))

/-- A condition on the ends of an edge. -/
theorem uses_holds_edge {a b : Variable} {p : Iri} {e : Expr} (ha : a ∈ outer ∨ MadeUp lo hi a)
    (hb : b ∈ outer ∨ MadeUp lo hi b) (he : e.Uses (outer ++ [a, b]) lo hi) :
    (Expr.holds [edge a p b, .filter e]).Uses outer lo hi :=
  .holds ((Group.Uses.edge ha hb p).append (.filter he))

theorem uses_idOf_eq {v : Variable} (hv : v ∈ outer) (id : LocalId) :
    (Expr.binary (Expr.idOf (.var v)) .eq (.integer id.toNat)).Uses outer lo hi :=
  .binary (.idOf (.var hv)) (.integer _) .eq

theorem yields_timeMatch (property : Iri) (since : Instant) :
    (timeMatch property since).Yields n (Expr.Uses sharedVars n) := by
  refine (yields_fresh n).bind fun m time _ htime => Fresh.yields_pure ?_
  exact uses_holds_edge (.inl contactVar_mem) (.inr htime)
    (.binary (.var (by simp)) (.literal _ _) .ge)

theorem yields_changeMatch (filter : ChangeFilter) :
    (changeMatch filter).Yields n (Expr.Uses sharedVars n) := by
  unfold changeMatch
  split
  · exact Attempt.yields_accept (yields_timeMatch _ filter.since)
  · exact Attempt.yields_accept (yields_timeMatch _ filter.since)
  · exact Attempt.yields_reject _

theorem yields_inGroup (id : LocalId) : (inGroup id).Yields n (Expr.Uses sharedVars n) :=
  (yields_fresh n).bind fun _ _ _ hgroup => Fresh.yields_pure
    (uses_holds_edge (.inl contactVar_mem) (.inr hgroup) (uses_idOf_eq (by simp) id))

theorem yields_hasMember (id : LocalId) : (hasMember id).Yields n (Expr.Uses sharedVars n) :=
  (yields_fresh n).bind fun _ _ _ hmember => Fresh.yields_pure
    (uses_holds_edge (.inr hmember) (.inl contactVar_mem) (uses_idOf_eq (by simp) id))

theorem yields_relationshipMatch (s : Scope) (filter : RelationshipFilter) :
    (relationshipMatch s filter).Yields n (Expr.Uses sharedVars n) := by
  unfold relationshipMatch
  split
  · exact Fresh.yields_pure (.bool false)
  · split
    · exact yields_inGroup filter.contact
    · exact yields_hasMember filter.contact
    · refine (yields_inGroup filter.contact).bind fun m group hm hgroup => ?_
      exact (yields_hasMember filter.contact).bind fun k member hk hmember =>
        Fresh.yields_pure (Apart.any ⟨m, hm, hgroup, .singleton hk hmember⟩)

/-! ## Trees of conditions -/

/-- Conditions on a contact, combined the way a filter combines its parts. -/
inductive Condition where
  /-- The expression of a part that is not combined of others. -/
  | leaf (e : Expr)
  /-- All conditions have to hold. -/
  | all (parts : List Condition)
  /-- One of the conditions has to hold. -/
  | any (parts : List Condition)

mutual

/-- The expression of a tree of conditions. -/
def Condition.expr : Condition → Expr
  | .leaf e => e
  | .all parts => Expr.all (Condition.exprs parts)
  | .any parts => Expr.any (Condition.exprs parts)

/-- The expressions of trees, in order. -/
def Condition.exprs : List Condition → List Expr
  | [] => []
  | c :: cs => c.expr :: Condition.exprs cs

end

mutual

/-- The expressions at the leaves of a tree, from left to right. -/
def Condition.leaves : Condition → List Expr
  | .leaf e => [e]
  | .all parts => Condition.allLeaves parts
  | .any parts => Condition.allLeaves parts

/-- Those of several trees. -/
def Condition.allLeaves : List Condition → List Expr
  | [] => []
  | c :: cs => c.leaves ++ Condition.allLeaves cs

end

mutual

/-- The tree of a filter, with the expression of each part that is not combined of others. -/
def conditionTree (s : Scope) : Filter → Attempt Condition
  | .intersection filters => do
    let parts ← conditionTrees s filters
    pure (.all parts)
  | .union filters => do
    let parts ← conditionTrees s filters
    pure (.any parts)
  | filter => do
    let e ← restriction s filter
    pure (.leaf e)

/-- The trees of filters, in order. -/
def conditionTrees (s : Scope) : List Filter → Attempt (List Condition)
  | [] => pure []
  | f :: fs => do
    let c ← conditionTree s f
    let cs ← conditionTrees s fs
    pure (c :: cs)

end

mutual

/-- The expression of a filter is that of its tree. -/
theorem restriction_eq (s : Scope) : (filter : Filter) →
    restriction s filter = Condition.expr <$> conditionTree s filter
  | .intersection filters => by
    rw [restriction, conditionTree, restrictions_eq s filters]
    simp only [map_eq_pure_bind, bind_assoc, pure_bind, Condition.expr]
  | .union filters => by
    rw [restriction, conditionTree, restrictions_eq s filters]
    simp only [map_eq_pure_bind, bind_assoc, pure_bind, Condition.expr]
  | .everything | .nothing | .ids _ | .detail _ | .range _ | .change _ | .relationship _ => by
    simp [conditionTree, Condition.expr]

theorem restrictions_eq (s : Scope) : (filters : List Filter) →
    restrictions s filters = Condition.exprs <$> conditionTrees s filters
  | [] => by simp [restrictions, conditionTrees, Condition.exprs]
  | f :: fs => by
    rw [restrictions, conditionTrees, restriction_eq s f, restrictions_eq s fs]
    simp only [map_eq_pure_bind, bind_assoc, pure_bind, Condition.exprs]

end

/-- A filter that has an expression has a tree. -/
theorem exists_conditionTree {filter : Filter} {e : Expr} {m : Nat}
    (h : restriction s filter n = .ok (e, m)) :
    ∃ c, conditionTree s filter n = .ok (c, m) ∧ c.expr = e := by
  rw [restriction_eq, map_eq_pure_bind] at h
  simp only [Attempt.bind_eq_ok_iff, Attempt.pure_eq_ok_iff, Prod.mk.injEq] at h
  obtain ⟨c, m', hc, rfl, rfl⟩ := h
  exact ⟨c, hc, rfl⟩

mutual

/-- The expression of a tree uses what its leaves do. -/
theorem Condition.uses_expr : (c : Condition) → (∀ e ∈ c.leaves, e.Uses outer lo hi) →
    c.expr.Uses outer lo hi
  | .leaf e, h => by
    rw [Condition.leaves, List.forall_mem_singleton] at h
    rwa [Condition.expr]
  | .all parts, h => by
    rw [Condition.leaves] at h
    rw [Condition.expr]
    exact .joinWith (Condition.uses_exprs parts h) .and true
  | .any parts, h => by
    rw [Condition.leaves] at h
    rw [Condition.expr]
    exact .joinWith (Condition.uses_exprs parts h) .or false

theorem Condition.uses_exprs : (cs : List Condition) →
    (∀ e ∈ Condition.allLeaves cs, e.Uses outer lo hi) →
    ∀ e ∈ Condition.exprs cs, e.Uses outer lo hi
  | [], _ => by simp [Condition.exprs]
  | c :: cs, h => by
    rw [Condition.allLeaves, List.forall_mem_append] at h
    rw [Condition.exprs, List.forall_mem_cons]
    exact ⟨Condition.uses_expr c h.1, Condition.uses_exprs cs h.2⟩

end

theorem yields_leaf {x : Attempt Expr} (hx : x.Yields n (Expr.Uses sharedVars n)) :
    Attempt.Yields (do let e ← x; pure (Condition.leaf e)) n
      fun m c => Apart sharedVars n m c.leaves :=
  hx.bind fun m e hm he => Attempt.yields_pure (by
    rw [Condition.leaves]
    exact .singleton hm he)

mutual

/-- The leaves of the tree of a filter are made one after the other. -/
theorem yields_conditionTree (s : Scope) (n : Nat) : (filter : Filter) →
    (conditionTree s filter).Yields n fun m c => Apart sharedVars n m c.leaves
  | .everything => yields_leaf (Attempt.yields_pure (.bool true))
  | .nothing => yields_leaf (Attempt.yields_pure (.bool false))
  | .ids [] => yields_leaf (Attempt.yields_reject .noIds)
  | .ids (id :: ids) => yields_leaf (Attempt.yields_pure (uses_idIn contactVar_mem (id :: ids)))
  | .detail filter => yields_leaf (yields_detailMatch s filter)
  | .range filter => yields_leaf (yields_rangeMatch s filter)
  | .change filter => yields_leaf (yields_changeMatch filter)
  | .relationship filter => yields_leaf (Attempt.yields_accept (yields_relationshipMatch s filter))
  | .intersection filters => by
    rw [conditionTree]
    exact (yields_conditionTrees s n filters).bind fun m parts _ hparts =>
      Attempt.yields_pure (by rwa [Condition.leaves])
  | .union filters => by
    rw [conditionTree]
    exact (yields_conditionTrees s n filters).bind fun m parts _ hparts =>
      Attempt.yields_pure (by rwa [Condition.leaves])

theorem yields_conditionTrees (s : Scope) (n : Nat) : (filters : List Filter) →
    (conditionTrees s filters).Yields n fun m cs => Apart sharedVars n m (Condition.allLeaves cs)
  | [] => Attempt.yields_pure (Nat.le_refl n)
  | f :: fs => by
    rw [conditionTrees]
    refine (yields_conditionTree s n f).bind fun m c _ hc => ?_
    refine (yields_conditionTrees s m fs).bind fun k cs _ hcs => Attempt.yields_pure ?_
    rw [Condition.allLeaves]
    exact hc.append hcs

end

/-! ## Keys of orders -/

theorem Reach.Uses.orderKey {r : Reach} (hr : r.Uses outer lo hi) (textual : Bool) :
    (Query.orderKey r textual).Uses outer lo hi := by
  have hkey : (Expr.select (Select.first (.var r.value) r.group)).Uses outer lo hi :=
    .select hr.group (.var hr.value) (some 1)
  unfold Query.orderKey
  split
  · exact .lowerCase hkey
  · exact hkey

theorem yields_orderKey? (schema : Schema) (o : SortOrder) :
    (orderKey? schema o).Yields n fun m key => ∀ e ∈ key, e.Uses sharedVars n m := by
  have hnone : Fresh.Yields (pure none) n
      fun m (key : Option Expr) => ∀ e ∈ key, e.Uses sharedVars n m :=
    Fresh.yields_pure (by simp)
  unfold orderKey?
  split
  · exact hnone
  · split
    · exact (yields_reachCustom o.detail (some o.field)).bind fun m r _ hr =>
        Fresh.yields_pure (by simpa using hr.orderKey true)
    · split
      · exact hnone
      · split
        · exact hnone
        · exact (yields_reachField _ _).bind fun m r _ hr =>
            Fresh.yields_pure (by simpa using hr.orderKey _)

/-- The keys of orders that the store can follow are made one after the other. -/
theorem yields_orderConditions (schema : Schema) (orders : List SortOrder) :
    (orderConditions schema orders).Yields n
      fun m order => ∀ cs ∈ order, Apart sharedVars n m (cs.map (·.key)) := by
  induction orders generalizing n with
  | nil => exact Fresh.yields_pure (by simp [Apart])
  | cons o os ih =>
    refine (yields_orderKey? schema o).bind fun m key hm hkey => ?_
    cases key with
    | none => exact Fresh.yields_pure (by simp)
    | some e =>
      refine ih.bind fun k rest _ hrest => Fresh.yields_pure fun cs hcs => ?_
      obtain ⟨cs', hcs', rfl⟩ := Option.map_eq_some_iff.mp hcs
      exact ⟨m, hm, hkey e rfl, hrest cs' hcs'⟩

end ContactGraph.Query
