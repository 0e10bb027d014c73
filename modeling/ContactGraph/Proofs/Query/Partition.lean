import ContactGraph.Proofs.Query.Attempt
import ContactGraph.Proofs.Query.Layout

/-!
# The columns of a query

`Plan.IsPartition` : the four base columns, the columns of the details, the one of free details and
those of relationships are all columns of the query, each once and in this order. Every layout names
just the columns from its first up to its last one and only fields that its detail has
(`Binding.Fits`), so what is read of one detail never comes from the columns of another. Every plan
is one (`isPartition_of_plan`).
-/

namespace ContactGraph.Query

variable {d : DetailDefinition} {n first : Nat}

/-- The columns of a detail are the ones its layout names, each once, and of every field there are
just those its flags ask for. -/
structure Binding.Fits (b : Binding) : Prop where
  /-- No column is named twice. -/
  nodup : b.layout.columns.Nodup
  /-- The columns named are those of the range. -/
  mem_columns_iff : ∀ c, c ∈ b.layout.columns ↔ b.first ≤ c ∧ c < b.last
  /-- The fields named are fields of the detail. -/
  field_lt : ∀ i ∈ b.layout.fields, i < b.detail.fields.length
  /-- A field is read the way its definition says. -/
  roles_eq : ∀ i f, b.detail.fields[i]? = some f → b.layout.roles i = rolesOf b.detail f

/-- The ranges of details follow each other from a column on. -/
def Chained : Nat → List Binding → Prop
  | _, [] => True
  | first, b :: bs => b.first = first ∧ Chained b.last bs

namespace Plan

/-- The columns of relationships. -/
def relationshipColumns (p : Plan) : List Nat :=
  match p.relationships with
  | none => []
  | some r => r.groups :: r.members.toList

/-- The columns of a query are told apart without a gap. -/
structure IsPartition (p : Plan) : Prop where
  /-- The details are those of the schema that are asked for. -/
  details_eq : p.bindings.map (·.detail) = p.schema.details.filter (isBound p.details)
  /-- The ranges of the details follow each other behind the four base columns. -/
  chained : Chained 4 p.bindings
  /-- The layout of each detail fits its range. -/
  fits : ∀ b ∈ p.bindings, b.Fits
  /-- The base columns, those of the details, of free details and of relationships are all columns.
  -/
  columns_eq : List.range 4 ++ p.bindings.flatMap (·.layout.columns) ++
    p.customColumn.toList ++ p.relationshipColumns = List.range p.select.columns.length
  /-- Groups have a column of members, and only they do. -/
  members_iff : ∀ r, p.relationships = some r →
    (r.members.isSome = true ↔ p.schema.type = .group)

end Plan

/-! ## Details -/

theorem columns_detailColumns (d : DetailDefinition) (first n : Nat) :
    (detailColumns d first n).1.2.columns =
      List.range' first (detailColumns d first n).1.1.length := by
  unfold detailColumns
  split
  · exact columns_uniqueColumns d first n
  · exact columns_multiColumns d first n

theorem fields_detailColumns {i : Nat} (hi : i ∈ (detailColumns d first n).1.2.fields) :
    i < d.fields.length := by
  unfold detailColumns at hi
  split at hi
  · exact fields_uniqueColumns first n hi
  · exact fields_multiColumns first n hi

theorem roles_detailColumns {f : FieldDefinition} {i : Nat} (hf : d.fields[i]? = some f) :
    (detailColumns d first n).1.2.roles i = rolesOf d f := by
  unfold detailColumns
  split
  · rename_i hd
    exact roles_uniqueColumns hd hf first n
  · rename_i hd
    exact roles_multiColumns (Bool.eq_false_iff.mpr hd) hf first n

theorem fits_detailColumns (d : DetailDefinition) (first n : Nat) :
    Binding.Fits ⟨d, first, first + (detailColumns d first n).1.1.length,
      (detailColumns d first n).1.2⟩ where
  nodup := by
    rw [columns_detailColumns]
    exact List.nodup_range'
  mem_columns_iff c := by rw [columns_detailColumns, List.mem_range'_1]
  field_lt _ hi := fields_detailColumns hi
  roles_eq _ _ hf := roles_detailColumns hf

theorem bindDetails_cons (d : DetailDefinition) (ds : List DetailDefinition) (first n : Nat) :
    ∃ m k, (bindDetails (d :: ds) first n).1 =
      ((detailColumns d first n).1.1 ++ (bindDetails ds m k).1.1,
        ⟨d, first, m, (detailColumns d first n).1.2⟩ :: (bindDetails ds m k).1.2) ∧
      m = first + (detailColumns d first n).1.1.length :=
  ⟨_, _, rfl, rfl⟩

/-- What is bound to a detail are the columns made for it. -/
theorem layout_of_mem_bindDetails {ds : List DetailDefinition} {b : Binding}
    (h : b ∈ (bindDetails ds first n).1.2) :
    b.detail ∈ ds ∧ ∃ k, b.layout = (detailColumns b.detail b.first k).1.2 := by
  induction ds generalizing first n with
  | nil => cases h
  | cons d ds ih =>
    obtain ⟨m, k, heq, -⟩ := bindDetails_cons d ds first n
    rw [heq] at h
    rcases List.mem_cons.mp h with rfl | h
    · exact ⟨List.mem_cons_self, n, rfl⟩
    · obtain ⟨hdetail, hlayout⟩ := ih h
      exact ⟨List.mem_cons_of_mem d hdetail, hlayout⟩

/-- The columns of details stand behind each other, and each layout fits its range. -/
theorem bindDetails_fits (ds : List DetailDefinition) (first n : Nat) :
    (bindDetails ds first n).1.2.map (·.detail) = ds ∧
      Chained first (bindDetails ds first n).1.2 ∧ (∀ b ∈ (bindDetails ds first n).1.2, b.Fits) ∧
      (bindDetails ds first n).1.2.flatMap (·.layout.columns) =
        List.range' first (bindDetails ds first n).1.1.length := by
  induction ds generalizing first n with
  | nil => exact ⟨rfl, trivial, nofun, rfl⟩
  | cons d ds ih =>
    obtain ⟨m, k, heq, hm⟩ := bindDetails_cons d ds first n
    obtain ⟨hds, hchained, hfits, hcolumns⟩ := ih m k
    rw [heq]
    refine ⟨congrArg (d :: ·) hds, ⟨rfl, hchained⟩,
      List.forall_mem_cons.mpr ⟨hm ▸ fits_detailColumns d first n, hfits⟩, ?_⟩
    rw [List.flatMap_cons, hcolumns, List.length_append, ← List.range'_append_1, ← hm,
      columns_detailColumns]

/-! ## Whole queries -/

theorem customPart_eq (schema : Schema) (sorting : List SortOrder) (hint : FetchHint) (n : Nat) :
    (customPart schema sorting hint n).1 = [] ∨
      ∃ e, (customPart schema sorting hint n).1 = [e] := by
  unfold customPart
  split
  · exact .inr ⟨_, rfl⟩
  · exact .inl rfl

theorem relationshipPart_eq (schema : Schema) (hint : FetchHint) (n : Nat) :
    (relationshipPart schema hint n).1 = [] ∨
      (schema.type ≠ .group ∧ ∃ g, (relationshipPart schema hint n).1 = [g]) ∨
      (schema.type = .group ∧ ∃ g m, (relationshipPart schema hint n).1 = [g, m]) := by
  unfold relationshipPart
  split
  · refine .inr ?_
    by_cases h : schema.type = .group
    · exact .inr ⟨h, _, _, by simp only [h]; rfl⟩
    · exact .inl ⟨h, _, by simp only [h]; rfl⟩
  · exact .inl rfl

/-- What a plan is made of, each part with the variables behind those of the part before. -/
theorem exists_parts_of_plan {s : Scope} {request : Request} {p : Plan}
    (h : plan s request = .ok p) :
    ∃ (k l m : Nat) (details custom edges : List Expr),
      bindDetails (s.schema.details.filter (isBound p.details)) baseColumns.length 0 =
        ((details, p.bindings), k) ∧
      customPart s.schema request.sorting request.hint k = (custom, l) ∧
      relationshipPart s.schema request.hint l = (edges, m) ∧
      p.details = wantedDetails s.schema request.sorting request.hint ∧
      p.customDetails = wantedCustom s.schema request.sorting request.hint ∧
      p.schema = s.schema ∧ p.select.columns = baseColumns ++ details ++ custom ++ edges ∧
      p.customColumn =
        (if custom.isEmpty then none else some (baseColumns.length + details.length)) ∧
      p.relationships =
        if edges.isEmpty then none
        else some ⟨baseColumns.length + details.length + custom.length,
          if edges.length = 2 then some (baseColumns.length + details.length + custom.length + 1)
          else none⟩ := by
  obtain ⟨m', hp⟩ := exists_planFrom_of_plan h
  rw [planFrom] at hp
  simp only [Attempt.bind_eq_ok_iff, accept_eq_ok_iff, Attempt.pure_eq_ok_iff] at hp
  obtain ⟨⟨details, bindings⟩, k, hdetails, custom, l, hcustom, edges, m, hedges, e, m₄, -, order,
    m₅, -, hp⟩ := hp
  obtain ⟨rfl, -⟩ := Prod.mk.inj hp
  exact ⟨k, l, m, details, custom, edges, hdetails, hcustom, hedges, rfl, rfl, rfl, rfl, rfl, rfl⟩

/-- What the columns of a plan are made of. -/
theorem exists_columns_of_plan {s : Scope} {request : Request} {p : Plan}
    (h : plan s request = .ok p) :
    ∃ (k l m : Nat) (details custom edges : List Expr),
      bindDetails (s.schema.details.filter (isBound p.details)) baseColumns.length 0 =
        ((details, p.bindings), k) ∧
      (customPart s.schema request.sorting request.hint l).1 = custom ∧
      (relationshipPart s.schema request.hint m).1 = edges ∧
      p.schema = s.schema ∧ p.select.columns = baseColumns ++ details ++ custom ++ edges ∧
      p.customColumn =
        (if custom.isEmpty then none else some (baseColumns.length + details.length)) ∧
      p.relationships =
        if edges.isEmpty then none
        else some ⟨baseColumns.length + details.length + custom.length,
          if edges.length = 2 then some (baseColumns.length + details.length + custom.length + 1)
          else none⟩ := by
  obtain ⟨k, l, m, details, custom, edges, hdetails, hcustom, hedges, -, -, hcolumns⟩ :=
    exists_parts_of_plan h
  exact ⟨k, k, l, details, custom, edges, hdetails, congrArg (·.1) hcustom,
    congrArg (·.1) hedges, hcolumns⟩

/-- A plan is for the contacts of its schema. -/
theorem schema_of_plan {s : Scope} {request : Request} {p : Plan} (h : plan s request = .ok p) :
    p.schema = s.schema := by
  obtain ⟨_, _, _, _, _, _, _, _, _, hschema, -⟩ := exists_columns_of_plan h
  exact hschema

/-- A plan has the columns of details of its schema. -/
theorem layout_of_mem_bindings {s : Scope} {request : Request} {p : Plan} {b : Binding}
    (h : plan s request = .ok p) (hb : b ∈ p.bindings) :
    b.detail ∈ s.schema.details ∧ ∃ k, b.layout = (detailColumns b.detail b.first k).1.2 := by
  obtain ⟨k, _, _, details, _, _, hbound, -⟩ := exists_columns_of_plan h
  rw [show p.bindings = (bindDetails (s.schema.details.filter (isBound p.details))
    baseColumns.length 0).1.2 by rw [hbound]] at hb
  obtain ⟨hdetail, hlayout⟩ := layout_of_mem_bindDetails hb
  exact ⟨(List.mem_filter.mp hdetail).1, hlayout⟩

/-- The column of free details, when there is one, stands behind the columns before it. -/
theorem range_append_customColumn {k : Nat} {custom : List Expr}
    (hcustom : custom = [] ∨ ∃ e, custom = [e]) :
    List.range k ++ (if custom.isEmpty then none else some k).toList =
      List.range (k + custom.length) := by
  rcases hcustom with rfl | ⟨e, rfl⟩
  · exact List.append_nil _
  · exact List.range_succ.symm

/-- The columns of relationships, when there are any, stand behind the columns before them. -/
theorem range_append_relationshipColumns {p : Plan} {k : Nat} {edges : List Expr}
    (hedges : edges = [] ∨ (∃ g, edges = [g]) ∨ ∃ g m, edges = [g, m])
    (hp : p.relationships = if edges.isEmpty then none
      else some ⟨k, if edges.length = 2 then some (k + 1) else none⟩) :
    List.range k ++ p.relationshipColumns = List.range (k + edges.length) := by
  rw [Plan.relationshipColumns, hp]
  rcases hedges with rfl | ⟨g, rfl⟩ | ⟨g, m, rfl⟩
  · exact List.append_nil _
  · exact List.range_succ.symm
  · refine (List.append_cons ..).trans ?_
    rw [← List.range_succ]
    exact List.range_succ.symm

/-- Every plan tells its columns apart without a gap. -/
theorem isPartition_of_plan {s : Scope} {request : Request} {p : Plan}
    (h : plan s request = .ok p) : p.IsPartition := by
  obtain ⟨k, l, m, details, custom, edges, hbound, hcustom, hedges, hschema, hcolumns,
    hcustomColumn, hrelationships⟩ := exists_columns_of_plan h
  obtain ⟨hds, hchained, hfits, hdetails⟩ :=
    bindDetails_fits (s.schema.details.filter (isBound p.details)) baseColumns.length 0
  rw [hbound] at hds hchained hfits hdetails
  have hcustoms := customPart_eq s.schema request.sorting request.hint l
  have hedgeKinds := relationshipPart_eq s.schema request.hint m
  rw [hcustom] at hcustoms
  rw [hedges] at hedgeKinds
  have hedgeCount : edges = [] ∨ (∃ g, edges = [g]) ∨ ∃ g m, edges = [g, m] :=
    hedgeKinds.imp_right fun h => h.imp And.right And.right
  have hfront : List.range 4 ++ p.bindings.flatMap (·.layout.columns) =
      List.range (baseColumns.length + details.length) := by
    rw [hdetails, List.range_eq_range', List.range_eq_range', ← List.range'_append_1, Nat.zero_add]
    rfl
  refine ⟨hschema ▸ hds, hchained, hfits, ?_, fun r hr => ?_⟩
  · rw [hfront, hcustomColumn, range_append_customColumn hcustoms,
      range_append_relationshipColumns hedgeCount hrelationships, hcolumns]
    simp only [List.length_append]
  · rw [hrelationships] at hr
    rw [hschema]
    rcases hedgeKinds with rfl | ⟨hs, g, rfl⟩ | ⟨hs, g, e, rfl⟩
    · exact absurd hr (by simp)
    · rw [← Option.some.inj hr]
      exact iff_of_false Bool.false_ne_true hs
    · rw [← Option.some.inj hr]
      exact iff_of_true rfl hs

/-- A schema of groups with a unique detail, whose sub-type is kept by property, and one that can be
many, whose sub-type is kept by class. -/
def layoutScope : Scope :=
  { schema := {
      type := .group
      details := [
        { name := Names.name, unique := true, dependencies := []
          chain := [{ iri := Vocabulary.Nco.hasAffiliation, identifies := true }]
          fields := [
            { name := Names.firstName, type := .text, customValues := true },
            { name := Names.subTypes, type := .text
              subTypes := some (.byProperty [⟨Vocabulary.Nao.hasProperty, "Work"⟩]) }] },
        { name := Names.phoneNumber, unique := false, dependencies := []
          chain := [{ iri := Vocabulary.Nco.belongsToGroup }]
          fields := [
            { name := Names.phoneNumber, type := .text
              chain := [{ iri := Vocabulary.Nco.nickname }] },
            { name := Names.subTypes, type := .list, subTypes := some (.byClass []) }] }] }
    settings := {}
    ids := {} }

/-- The columns of everything that is known of groups. -/
theorem isPartition_layoutScope : ∃ p, plan layoutScope {} = .ok p ∧ p.IsPartition ∧
    p.bindings.map (fun b => (b.first, b.last)) = [(4, 8), (8, 9)] ∧
    p.customColumn = some 9 ∧ p.relationships = some ⟨10, some 11⟩ := by
  obtain ⟨p, hp, hbindings, hcustom, hrelationships⟩ : ∃ p, plan layoutScope {} = .ok p ∧
      p.bindings.map (fun b => (b.first, b.last)) = [(4, 8), (8, 9)] ∧
      p.customColumn = some 9 ∧ p.relationships = some ⟨10, some 11⟩ := ⟨_, rfl, rfl, rfl, rfl⟩
  exact ⟨p, hp, isPartition_of_plan hp, hbindings, hcustom, hrelationships⟩

end ContactGraph.Query
