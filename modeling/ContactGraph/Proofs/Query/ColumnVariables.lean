import ContactGraph.Proofs.Query.Fresh
import ContactGraph.Query.Plan

/-!
# Variables of columns

The expressions that fill the columns of a query are made one after the other, each from the contact
or its affiliation and from variables made up for it alone. So the columns of one detail
(`yields_detailColumns`), of several details (`yields_bindDetails`), of free details and of
relationships are `Apart` : no made-up variable of one column stands in another.
-/

namespace ContactGraph.Query

open Vocabulary

/-- The variables that all parts of a query share : the contact and its affiliation. -/
def sharedVars : List Variable :=
  [contactVar, contextVar]

variable {n lo hi : Nat} {outer : List Variable} {start resource : Variable}
  {d : DetailDefinition} {f : FieldDefinition}

theorem contactVar_mem : contactVar ∈ sharedVars :=
  List.mem_cons_self

theorem contextVar_mem : contextVar ∈ sharedVars :=
  List.mem_cons_of_mem _ List.mem_cons_self

theorem startOf_mem (d : DetailDefinition) : startOf d ∈ sharedVars := by
  unfold startOf
  split
  · exact contextVar_mem
  · exact contactVar_mem

/-! ## Parts of columns -/

theorem uses_valueOf (f : FieldDefinition) {v : Variable} (hv : v ∈ outer) :
    (valueOf f v).Uses outer lo hi := by
  unfold valueOf
  split
  · exact .str (.var hv)
  · exact .str (.idOf (.var hv))

theorem uses_concat {es : List Expr} (hes : ∀ e ∈ es, e.Uses outer lo hi) :
    (Expr.concat es).Uses outer lo hi :=
  .call hes _

theorem uses_withGraph {value graph : Expr} (hvalue : value.Uses outer lo hi)
    (hgraph : graph.Uses outer lo hi) : (withGraph value graph).Uses outer lo hi :=
  uses_concat (by simpa using ⟨hvalue, Expr.Uses.text _, hgraph⟩)

theorem uses_guarded (d : DetailDefinition) {e : Expr} (he : e.Uses sharedVars lo hi) :
    (guarded d e).Uses sharedVars lo hi := by
  unfold guarded
  split
  · exact .ifElse (.bound contextVar_mem) he (.text _)
  · exact he

theorem yields_listOf (chain : List Property) (f : FieldDefinition) (hstart : start ∈ outer) :
    (listOf start chain f).Yields n (Expr.Uses outer n) := by
  refine (yields_walk chain hstart).bind fun m w _ hw => Fresh.yields_pure ?_
  exact .collect hw.group (uses_valueOf f hw.target) Packed.list

theorem yields_customValuesOf (chain : List Property) (name : String) (hstart : start ∈ outer) :
    (customValuesOf start chain name).Yields n (Expr.Uses outer n) := by
  refine (yields_walk chain hstart).bind fun m w hm hw => ?_
  refine (yields_fresh m).bind fun k property hk hproperty => ?_
  refine (yields_fresh k).bind fun l value hl hvalue => Fresh.yields_pure ?_
  have hfree := uses_freeProperty hw.target (hproperty.mono hm hl)
    (hvalue.mono (hm.trans hk) (Nat.le_refl l)) name
  have hreach := (hw.mono (hk.trans hl)).group.reach hfree
  exact .collect hreach.group (.str (.var hreach.value)) Packed.list

theorem yields_classIdsOf (hresource : resource ∈ outer) :
    (classIdsOf resource).Yields n (Expr.Uses outer n) := by
  refine (yields_fresh n).bind fun m type _ htype => Fresh.yields_pure ?_
  refine .collect (.edge (.inl hresource) (.inr htype) _) ?_ Packed.list
  exact .str (.idOf (.var (List.mem_append_right outer (mem_binds_edge ..))))

/-- The graph that holds an edge, of which both ends are known or just one. -/
theorem yields_graphOf (p : Property) {object : Option Variable} (hstart : start ∈ outer)
    (hobject : ∀ v ∈ object, v ∈ outer) :
    (graphOf start p object).Yields n (Expr.Uses outer n) := by
  refine (yields_fresh n).bind fun m graph hm hgraph => ?_
  have hend {k : Nat} {v : Variable} (hk : m ≤ k) (hv : v ∈ outer ∨ MadeUp n k v) :
      (Expr.orEmpty (.select (Select.first (.var graph) [.graph graph [step start p v]]))).Uses
        outer n k := by
    have hgroup : Group.Uses outer n k [.graph graph [step start p v]] :=
      .graph (.inr (hgraph.mono (Nat.le_refl n) hk)) (.step (.inl hstart) hv p)
    have hbinds : graph ∈ Group.binds [.graph graph [step start p v]] := by
      simp [Group.binds, Pattern.binds]
    exact .orEmpty (.select hgroup (.var (List.mem_append_right outer hbinds)) (some 1))
  cases object with
  | some v =>
    have hv : v ∈ outer := hobject v rfl
    exact (Fresh.yields_pure (P := fun k w => w = v) rfl).bind fun k w hk hw =>
      Fresh.yields_pure (hend hk (.inl (hw ▸ hv)))
  | none =>
    exact (yields_fresh m).bind fun k v hk hv =>
      Fresh.yields_pure (hend hk (.inr (hv.mono hm (Nat.le_refl k))))

/-! ## Unique details -/

theorem yields_uniqueValue (d : DetailDefinition) (f : FieldDefinition) :
    (uniqueValue d f).Yields n (Expr.Uses sharedVars n) := by
  unfold uniqueValue
  split
  · refine Fresh.yields_pure (.call ?_ _)
    simpa using Expr.Uses.var (startOf_mem d)
  · refine (yields_listOf _ f (startOf_mem d)).bind fun m value hm hvalue => ?_
    split
    · exact Fresh.yields_pure hvalue
    · split
      · refine (yields_graphOf _ (startOf_mem d) (by simp)).bind fun k graph hk hgraph => ?_
        exact Fresh.yields_pure (uses_withGraph (hvalue.mono (fun _ hv => hv) (Nat.le_refl n) hk)
          (hgraph.mono (fun _ hv => hv) hm (Nat.le_refl k)))
      · exact Fresh.yields_pure hvalue

/-- Cells whose expressions are apart. -/
def CellsApart (lo hi : Nat) (cells : List Cell) : Prop :=
  Apart sharedVars lo hi (cells.map (·.expr))

theorem CellsApart.append {mid : Nat} {cells more : List Cell} (h : CellsApart lo mid cells)
    (hmore : CellsApart mid hi more) : CellsApart lo hi (cells ++ more) := by
  rw [CellsApart, List.map_append]
  exact Apart.append h hmore

theorem yields_fieldCells (d : DetailDefinition) (f : FieldDefinition) (i : Nat) :
    (fieldCells d f i).Yields n (CellsApart n) := by
  have hnone (m : Nat) : CellsApart m m [] := Nat.le_refl m
  have hvalues : (valueCells d f i).Yields n (CellsApart n) := by
    unfold valueCells
    split
    · exact Fresh.yields_pure (hnone n)
    · exact (yields_uniqueValue d f).bind fun m e hm he =>
        Fresh.yields_pure (Apart.singleton hm (uses_guarded d he))
  have hcustoms (m : Nat) : (customCells d f i).Yields m (CellsApart m) := by
    unfold customCells
    split
    · exact (yields_customValuesOf d.chain f.name (startOf_mem d)).bind fun k e hk he =>
        Fresh.yields_pure (Apart.singleton hk (uses_guarded d he))
    · exact Fresh.yields_pure (hnone m)
  unfold fieldCells
  split
  · exact Fresh.yields_pure (hnone n)
  · refine hvalues.bind fun m values _ hvalues => ?_
    exact (hcustoms m).bind fun k customs _ hcustoms =>
      Fresh.yields_pure (hvalues.append hcustoms)

theorem yields_cellsOf (d : DetailDefinition) (fields : List (FieldDefinition × Nat)) :
    (cellsOf d fields).Yields n (CellsApart n) := by
  induction fields generalizing n with
  | nil => exact Fresh.yields_pure (Nat.le_refl n)
  | cons field fields ih =>
    obtain ⟨f, i⟩ := field
    refine (yields_fieldCells d f i).bind fun m here _ hhere => ?_
    exact ih.bind fun k there _ hthere => Fresh.yields_pure (hhere.append hthere)

theorem yields_uniqueSubTypes (d : DetailDefinition) (f : FieldDefinition) (types : List Labelled) :
    (uniqueSubTypes d f types).Yields n (Apart sharedVars n) := by
  induction types generalizing n with
  | nil => exact Fresh.yields_pure (Nat.le_refl n)
  | cons t ts ih =>
    exact yields_cons ((yields_listOf _ f (startOf_mem d)).mono fun m e _ => uses_guarded d)
      fun m => ih

theorem yields_uniqueUri (d : DetailDefinition) :
    (uniqueUri d).Yields n (Apart sharedVars n) := by
  unfold uniqueUri
  split
  · refine (yields_walk d.chain (startOf_mem d)).bind fun m w hm hw => Fresh.yields_pure ?_
    have hcollect := Expr.Uses.collect hw.group (.str (.var hw.target)) Packed.list
    exact Apart.singleton hm (uses_guarded d hcollect)
  · exact Fresh.yields_pure (Nat.le_refl n)

theorem yields_uniqueColumns (d : DetailDefinition) (first : Nat) :
    (uniqueColumns d first).Yields n fun m columns => Apart sharedVars n m columns.1 := by
  refine (yields_cellsOf d _).bind fun m cells _ hcells => ?_
  refine (yields_uniqueSubTypes d _ _).bind fun k subTypes _ hsubTypes => ?_
  exact (yields_uniqueUri d).bind fun l uris _ huris =>
    Fresh.yields_pure ((Apart.append hcells hsubTypes).append huris)

/-! ## Details that can be many -/

theorem yields_instanceValue (f : FieldDefinition) (hresource : resource ∈ outer) :
    (instanceValue f resource).Yields n (Expr.Uses outer n) := by
  unfold instanceValue
  split
  · exact Fresh.yields_pure (uses_valueOf f hresource)
  · exact yields_listOf f.chain f hresource

/-- A part of an instance may repeat the graph of its resource. -/
theorem yields_tokenExpr (d : DetailDefinition) {graph : Option Expr} (t : Token) (hle : lo ≤ n)
    (hresource : resource ∈ outer) (hgraph : ∀ g ∈ graph, g.Uses outer lo n) :
    (tokenExpr d resource graph t).Yields n (Expr.Uses outer lo) := by
  cases t with
  | uri => exact Fresh.yields_pure (.str (.var hresource))
  | value i =>
    refine (yields_instanceValue (d.fieldAt i) hresource).bind fun m value hm hvalue => ?_
    have hvalue := hvalue.mono (fun _ hv => hv) hle (Nat.le_refl m)
    cases graph with
    | none => exact Fresh.yields_pure hvalue
    | some g =>
      have hg := (hgraph g rfl).mono (fun _ hv => hv) (Nat.le_refl lo) hm
      exact Fresh.yields_pure (uses_withGraph hvalue hg)
  | custom i =>
    exact (yields_customValuesOf [] (d.fieldAt i).name hresource).mono fun m e _ he =>
      he.mono (fun _ hv => hv) hle (Nat.le_refl m)
  | classes i =>
    exact (yields_classIdsOf hresource).mono fun m e _ he =>
      he.mono (fun _ hv => hv) hle (Nat.le_refl m)

theorem yields_tokenExprs (d : DetailDefinition) {graph : Option Expr} (ts : List Token)
    (hle : lo ≤ n) (hresource : resource ∈ outer) (hgraph : ∀ g ∈ graph, g.Uses outer lo n) :
    (tokenExprs d resource graph ts).Yields n fun m es => ∀ e ∈ es, e.Uses outer lo m := by
  induction ts generalizing n with
  | nil => exact Fresh.yields_pure (by simp)
  | cons t ts ih =>
    refine (yields_tokenExpr d t hle hresource hgraph).bind fun m e hm he => ?_
    have hgraph' : ∀ g ∈ graph, g.Uses outer lo m := fun g hg =>
      (hgraph g hg).mono (fun _ hv => hv) (Nat.le_refl lo) hm
    refine (ih (hle.trans hm) hgraph').bind fun k es hk hes => Fresh.yields_pure ?_
    exact List.forall_mem_cons.mpr
      ⟨he.mono (fun _ hv => hv) (Nat.le_refl lo) hk, hes⟩

theorem yields_ownerGraph (d : DetailDefinition) (chain : List Property) {w : Walk}
    (hprevious : w.previous ∈ outer) (htarget : w.target ∈ outer) :
    (ownerGraph d chain w).Yields n fun m graph => ∀ g ∈ graph, g.Uses outer n m := by
  unfold ownerGraph
  split
  · exact Fresh.yields_pure (by simp)
  · split
    · refine (yields_graphOf _ hprevious (by simpa using htarget)).bind fun m g _ hg => ?_
      exact Fresh.yields_pure (by simpa using hg)
    · exact Fresh.yields_pure (by simp)

theorem eq_or_mem_of_mem_intersperse {sep e : Expr} {es : List Expr} (h : e ∈ es.intersperse sep) :
    e = sep ∨ e ∈ es := by
  induction es with
  | nil => cases h
  | cons e' es ih =>
    cases es with
    | nil => exact .inr h
    | cons e'' es =>
      rw [List.intersperse_cons_cons, List.mem_cons, List.mem_cons] at h
      rcases h with rfl | rfl | h
      · exact .inr List.mem_cons_self
      · exact .inl rfl
      · exact (ih h).imp_right (List.mem_cons_of_mem e')

theorem uses_instanceExpr {parts : List Expr} (h : ∀ e ∈ parts, e.Uses outer lo hi) :
    (instanceExpr parts).Uses outer lo hi := by
  have hall : ∀ e ∈ parts.intersperse (Expr.text (separator Packed.field)),
      e.Uses outer lo hi := by
    intro e he
    rcases eq_or_mem_of_mem_intersperse he with rfl | he
    · exact .text _
    · exact h e he
  unfold instanceExpr
  split
  · rename_i e heq
    exact hall e (heq ▸ List.mem_singleton_self e)
  · exact uses_concat hall

/-- All instances of a detail use what its chain binds and what was made up for their parts. -/
theorem yields_aggregate (d : DetailDefinition) (tokens : List Token) (chain : List Property) :
    (aggregate d tokens chain).Yields n (Expr.Uses sharedVars n) := by
  refine (yields_walk chain (startOf_mem d)).bind fun m w hm hw => ?_
  refine (yields_ownerGraph d chain hw.previous hw.target).bind fun k graph hk hgraph => ?_
  refine (yields_tokenExprs d tokens hk hw.target hgraph).bind fun l parts hl hparts => ?_
  have hgroup := hw.group.mono (fun _ hv => hv) (Nat.le_refl n) (hk.trans hl)
  refine Fresh.yields_pure (.collect hgroup (uses_instanceExpr fun e he => ?_) Packed.detail)
  exact (hparts e he).mono (fun _ hv => hv) hm (Nat.le_refl l)

theorem yields_multiSubTypes (d : DetailDefinition) (tokens : List Token) (types : List Labelled) :
    (multiSubTypes d tokens types).Yields n (Apart sharedVars n) := by
  induction types generalizing n with
  | nil => exact Fresh.yields_pure (Nat.le_refl n)
  | cons t ts ih =>
    exact yields_cons ((yields_aggregate d tokens _).mono fun m e _ => uses_guarded d) fun m => ih

theorem yields_multiColumns (d : DetailDefinition) (first : Nat) :
    (multiColumns d first).Yields n fun m columns => Apart sharedVars n m columns.1 := by
  refine (yields_aggregate d _ d.chain).bind fun m main hm hmain => ?_
  exact (yields_multiSubTypes d _ _).bind fun k subTypes _ hsubTypes =>
    Fresh.yields_pure ⟨m, hm, uses_guarded d hmain, hsubTypes⟩

/-! ## All columns -/

theorem yields_detailColumns (d : DetailDefinition) (first : Nat) :
    (detailColumns d first).Yields n fun m columns => Apart sharedVars n m columns.1 := by
  unfold detailColumns
  split
  · exact (yields_uniqueColumns d first).bind fun m columns _ h => Fresh.yields_pure h
  · exact (yields_multiColumns d first).bind fun m columns _ h => Fresh.yields_pure h

theorem yields_bindDetails (ds : List DetailDefinition) (first : Nat) :
    (bindDetails ds first).Yields n fun m columns => Apart sharedVars n m columns.1 := by
  induction ds generalizing n first with
  | nil => exact Fresh.yields_pure (Nat.le_refl n)
  | cons d ds ih =>
    refine (yields_detailColumns d first).bind fun m columns _ hcolumns => ?_
    exact (ih _).bind fun k rest _ hrest => Fresh.yields_pure (hcolumns.append hrest)

theorem uses_propertyName {v : Variable} (hv : v ∈ outer) :
    (Expr.call Nao.propertyName [.var v]).Uses outer lo hi :=
  .call (by simpa using Expr.Uses.var hv) _

/-- The values of a field of a free detail. -/
theorem uses_freeValues {field value : Variable} (hfield : field ∈ outer)
    (hvalue : MadeUp lo hi value) :
    (collect (Expr.concat [.str (Expr.idOf (.var field)), Expr.text ":", .str (.var value)])
      Packed.list [edge field Nao.propertyValue value]).Uses outer lo hi := by
  refine .collect (.edge (.inl hfield) (.inr hvalue) _) (uses_concat ?_) Packed.list
  simp only [List.forall_mem_cons]
  exact ⟨.str (.idOf (.var (List.mem_append_left _ hfield))), .text _,
    .str (.var (List.mem_append_right _ (mem_binds_edge ..))), by simp⟩

/-- The fields of a free detail, with their values. -/
theorem uses_freeFields {detail field value : Variable} (hdetail : detail ∈ outer)
    (hfield : MadeUp lo hi field) (hvalue : MadeUp lo hi value) :
    (collect (Expr.concat [.call Nao.propertyName [.var field],
      Expr.text (separator Packed.field),
      collect (Expr.concat [.str (Expr.idOf (.var field)), Expr.text ":", .str (.var value)])
        Packed.list [edge field Nao.propertyValue value]])
      Packed.field [edge detail Nao.hasProperty field]).Uses outer lo hi := by
  have hbound := List.mem_append_right outer (mem_binds_edge detail Nao.hasProperty field)
  refine .collect (.edge (.inl hdetail) (.inr hfield) _) (uses_concat ?_) Packed.field
  simp only [List.forall_mem_cons]
  exact ⟨uses_propertyName hbound, .text _, uses_freeValues hbound hvalue, by simp⟩

/-- Selections are nested three deep, each using what those around it bind. -/
theorem yields_customDetailsExpr (names : List String) :
    (customDetailsExpr names).Yields n (Expr.Uses sharedVars n) := by
  refine (yields_fresh n).bind fun m detail hm hdetail => ?_
  refine (yields_fresh m).bind fun k field hk hfield => ?_
  refine (yields_fresh k).bind fun l value hl hvalue => Fresh.yields_pure ?_
  have hedge : Group.Uses sharedVars n l [edge contactVar Nao.hasProperty detail] :=
    .edge (.inl contactVar_mem) (.inr (hdetail.mono (Nat.le_refl n) (hk.trans hl))) _
  have hbound := List.mem_append_right sharedVars (mem_binds_edge contactVar Nao.hasProperty detail)
  have hamong : Group.Uses (sharedVars ++ Group.binds [edge contactVar Nao.hasProperty detail]) n l
      (if names.isEmpty then []
        else [.filter (.isIn (.call Nao.propertyName [.var detail]) (names.map Expr.text))]) := by
    split
    · exact .nil
    · exact .filter (.isIn (uses_propertyName hbound) (by simp [Expr.Uses.text]))
  refine .collect (hedge.append hamong) (uses_concat ?_) Packed.detail
  rw [binds_append, ← List.append_assoc]
  simp only [List.forall_mem_cons]
  refine ⟨uses_propertyName (List.mem_append_left _ hbound), .text _, ?_, by simp⟩
  exact uses_freeFields (List.mem_append_left _ hbound) (hfield.mono hm hl)
    (hvalue.mono (hm.trans hk) (Nat.le_refl l))

theorem yields_groupsExpr : groupsExpr.Yields n (Expr.Uses sharedVars n) := by
  refine (yields_fresh n).bind fun m group _ hgroup => Fresh.yields_pure ?_
  refine .collect (.edge (.inl contactVar_mem) (.inr hgroup) _) ?_ Packed.list
  exact .str (.idOf (.var (List.mem_append_right _ (mem_binds_edge ..))))

theorem yields_membersExpr : membersExpr.Yields n (Expr.Uses sharedVars n) := by
  refine (yields_fresh n).bind fun m member _ hmember => Fresh.yields_pure ?_
  refine .collect (.edge (.inr hmember) (.inl contactVar_mem) _) ?_ Packed.list
  refine .str (.idOf (.var (List.mem_append_right _ ?_)))
  simp [Group.binds, edge, Pattern.binds, Pattern.vars, Expr.termVars]

theorem yields_customPart (schema : Schema) (sorting : List SortOrder) (hint : FetchHint) :
    (customPart schema sorting hint).Yields n (Apart sharedVars n) := by
  unfold customPart
  dsimp only
  split
  · exact (yields_customDetailsExpr _).bind fun m e hm he =>
      Fresh.yields_pure (Apart.singleton hm he)
  · exact Fresh.yields_pure (Nat.le_refl n)

theorem yields_relationshipPart (schema : Schema) (hint : FetchHint) :
    (relationshipPart schema hint).Yields n (Apart sharedVars n) := by
  unfold relationshipPart
  split
  · refine yields_groupsExpr.bind fun m groups hm hgroups => ?_
    split
    · exact yields_membersExpr.bind fun k members hk hmembers =>
        Fresh.yields_pure ⟨m, hm, hgroups, Apart.singleton hk hmembers⟩
    · exact Fresh.yields_pure (Apart.singleton hm hgroups)
  · exact Fresh.yields_pure (Nat.le_refl n)

end ContactGraph.Query
