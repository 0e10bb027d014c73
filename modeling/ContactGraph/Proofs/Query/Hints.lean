import ContactGraph.Proofs.NameMap
import ContactGraph.Proofs.Query.Partition
import ContactGraph.Proofs.Query.Refusal

/-!
# What a hint fetches

`FetchHint.Needs` says which details a hint and sort orders need : all of them when the hint gives
no name, and otherwise those that the details asked for depend on. A plan has columns for just these
(`Plan.Follows`). The columns are made before the filter and the order are looked at, so they come
out the same, down to their variables, for requests that differ in the filter, in how they sort by
the same details and in how many contacts they want (`exists_plans_of_asksAlike`).
-/

namespace ContactGraph

/-! ## Details of a schema -/

namespace Schema

variable {schema : Schema} {d : DetailDefinition} {name : String}

/-- The details of a schema have different names. -/
def HasOwnNames (schema : Schema) : Prop :=
  (schema.details.map (·.name)).Nodup

instance (schema : Schema) : Decidable schema.HasOwnNames :=
  inferInstanceAs (Decidable (List.Nodup _))

theorem HasOwnNames.detail?_eq_some_iff (h : schema.HasOwnNames) :
    schema.detail? name = some d ↔ d ∈ schema.details ∧ d.name = name :=
  find?_name_eq_some_iff h

theorem detail?_eq_none_iff : schema.detail? name = none ↔ ∀ d ∈ schema.details, d.name ≠ name := by
  simp [detail?]

end Schema

/-! ## Names and details asked for -/

namespace FetchHint

variable {hint : FetchHint} {sorting sorting' : List SortOrder} {schema : Schema} {name : String}
  {d : DetailDefinition}

/-- A hint that gives names asks for these, and for those that contacts are sorted by. One without
names is for everything, and asks for nothing by name. -/
def AsksFor (hint : FetchHint) (sorting : List SortOrder) (name : String) : Prop :=
  hint.details ≠ [] ∧ (name ∈ hint.details ∨ ∃ o ∈ sorting, o.detail = name)

/-- The details that have to be fetched for a hint and sort orders. -/
inductive Needs (hint : FetchHint) (sorting : List SortOrder) (schema : Schema)
    (d : DetailDefinition) : Prop where
  /-- A hint without names is for all of them. -/
  | all (h : hint.details = []) : Needs hint sorting schema d
  /-- A detail that is asked for depends on it. -/
  | dependency {e : DetailDefinition} (he : e ∈ schema.details)
    (hasked : hint.AsksFor sorting e.name) (hd : d.name ∈ e.dependencies) :
    Needs hint sorting schema d

/-- Relationships are wanted unless the hint is for none of them, or only for others. -/
theorem wants_iff {type : String} : hint.wants type = true ↔
    hint.noRelationships = false ∧ (hint.relationships = [] ∨ type ∈ hint.relationships) := by
  simp [wants]

end FetchHint

/-- Requests with the same hint, but for how many contacts they want, and with sort orders over the
same details. -/
structure Request.AsksAlike (request request' : Request) : Prop where
  /-- The hints want the same of each contact. -/
  hint_eq : request'.hint = { request.hint with maxCount := request'.hint.maxCount }
  /-- The sort orders name the same details. -/
  sorting_iff (name : String) :
    (∃ o ∈ request.sorting, o.detail = name) ↔ ∃ o ∈ request'.sorting, o.detail = name

namespace Query

variable {hint : FetchHint} {sorting sorting' : List SortOrder} {schema : Schema} {name : String}
  {d : DetailDefinition}

theorem mem_mentioned_iff :
    name ∈ mentioned sorting hint ↔ name ∈ hint.details ∨ ∃ o ∈ sorting, o.detail = name := by
  simp [mentioned]

theorem contains_wantedDetails_iff (hnames : schema.HasOwnNames) (hd : d ∈ schema.details) :
    (wantedDetails schema sorting hint).contains d.name = true ↔ hint.Needs sorting schema d := by
  rw [wantedDetails]
  by_cases hempty : hint.details = []
  · rw [if_pos (by simp [hempty]), NameSet.contains_ofNames_iff]
    exact iff_of_true (List.mem_map_of_mem hd) (.all hempty)
  · rw [if_neg (by simpa using hempty), NameSet.contains_ofNames_iff, List.mem_flatMap]
    simp only [mem_mentioned_iff]
    constructor
    · rintro ⟨name, hname, hdep⟩
      cases hfound : schema.detail? name with
      | none => simp [hfound] at hdep
      | some e =>
        obtain ⟨he, rfl⟩ := hnames.detail?_eq_some_iff.mp hfound
        rw [hfound] at hdep
        exact .dependency he ⟨hempty, hname⟩ hdep
    · rintro (hall | ⟨he, hasked, hdep⟩)
      · exact absurd hall hempty
      · refine ⟨_, hasked.2, ?_⟩
        rw [hnames.detail?_eq_some_iff.mpr ⟨he, rfl⟩]
        exact hdep

theorem contains_wantedCustom_iff : (wantedCustom schema sorting hint).contains name = true ↔
    hint.AsksFor sorting name ∧ ∀ d ∈ schema.details, d.name ≠ name := by
  rw [wantedCustom, FetchHint.AsksFor]
  by_cases hempty : hint.details = []
  · rw [if_pos (by simp [hempty])]
    exact iff_of_false Bool.false_ne_true fun h => h.1.1 hempty
  · rw [if_neg (by simpa using hempty), NameSet.contains_ofNames_iff, List.mem_filter,
      mem_mentioned_iff, Option.isNone_iff_eq_none, Schema.detail?_eq_none_iff]
    simp only [ne_eq, hempty, not_false_eq_true, true_and]

/-- There is a column of free details when some are asked for, or everything is. -/
theorem customPart_eq_nil_iff (schema : Schema) (sorting : List SortOrder) (hint : FetchHint)
    (n : Nat) : (customPart schema sorting hint n).1 = [] ↔
    ¬ ((∃ name, (wantedCustom schema sorting hint).contains name = true) ∨ hint.details = []) := by
  rw [← NameSet.isEmpty_eq_false_iff, customPart]
  split
  · rename_i h
    exact iff_of_false (List.cons_ne_nil _ _) (not_not_intro (by simpa using h))
  · rename_i h
    exact iff_of_true rfl (by simpa using h)

theorem relationshipPart_eq_nil_iff (schema : Schema) (hint : FetchHint) (n : Nat) :
    (relationshipPart schema hint n).1 = [] ↔ ¬ hint.wants Relationship.hasMember = true := by
  rw [relationshipPart]
  split
  · rename_i h
    refine iff_of_false ?_ (not_not_intro h)
    by_cases hgroup : schema.type = .group
    · simp only [hgroup]
      exact List.cons_ne_nil _ _
    · simp only [hgroup]
      exact List.cons_ne_nil _ _
  · rename_i h
    exact iff_of_true rfl h

/-- A plan has columns of relationships when the hint wants those to groups. -/
theorem isSome_relationships_iff {s : Scope} {request : Request} {p : Plan}
    (h : plan s request = .ok p) :
    p.relationships.isSome = true ↔ request.hint.wants Relationship.hasMember = true := by
  obtain ⟨_, l, _, _, _, edges, -, -, hedges, -, -, -, -, -, hrelationships⟩ :=
    exists_parts_of_plan h
  have hnil := relationshipPart_eq_nil_iff s.schema request.hint l
  rw [hedges] at hnil
  rw [hrelationships, ← not_iff_not, ← hnil]
  cases edges <;> simp

/-! ## Columns -/

/-- The columns of a plan are those that a hint and sort orders ask for. -/
structure Plan.Follows (p : Plan) (schema : Schema) (sorting : List SortOrder) (hint : FetchHint) :
    Prop where
  /-- The details come in the order of the schema. -/
  sublist : (p.bindings.map (·.detail)).Sublist schema.details
  /-- No detail comes twice. -/
  nodup : (p.bindings.map (·.detail.name)).Nodup
  /-- They are those that are needed, are stored and have something to store. -/
  mem_iff (d : DetailDefinition) (hd : d ∈ schema.details) : d ∈ p.bindings.map (·.detail) ↔
    d.computed = false ∧ d.fields ≠ [] ∧ hint.Needs sorting schema d
  /-- The names asked for that the schema does not know are those of free details. -/
  custom_iff (name : String) : p.customDetails.contains name = true ↔
    hint.AsksFor sorting name ∧ ∀ d ∈ schema.details, d.name ≠ name
  /-- Free details have a column when some are asked for, or the hint gives no name. -/
  customColumn_iff : p.customColumn.isSome = true ↔
    (∃ name, p.customDetails.contains name = true) ∨ hint.details = []
  /-- Relationships have columns when the hint is for those to groups. -/
  relationships_iff : p.relationships.isSome = true ↔ hint.noRelationships = false ∧
    (hint.relationships = [] ∨ Relationship.hasMember ∈ hint.relationships)

/-- Two plans have the same columns for the same. -/
structure Plan.SharesColumns (p p' : Plan) : Prop where
  /-- The same columns belong to the same details. -/
  bindings_eq : p'.bindings = p.bindings
  /-- All columns are the same expressions. -/
  columns_eq : p'.select.columns = p.select.columns
  /-- The column of free details is the same. -/
  customColumn_eq : p'.customColumn = p.customColumn
  /-- The columns of relationships are the same. -/
  relationships_eq : p'.relationships = p.relationships

theorem mem_isBound_iff (hnames : schema.HasOwnNames) (hd : d ∈ schema.details) :
    d ∈ schema.details.filter (isBound (wantedDetails schema sorting hint)) ↔
      d.computed = false ∧ d.fields ≠ [] ∧ hint.Needs sorting schema d := by
  rw [List.mem_filter, and_iff_right hd, isBound, Bool.and_eq_true, Bool.and_eq_true,
    contains_wantedDetails_iff hnames hd]
  simp only [Bool.not_eq_true', List.isEmpty_eq_false_iff]
  exact ⟨fun ⟨⟨hstored, hneeds⟩, hfields⟩ => ⟨hstored, hfields, hneeds⟩,
    fun ⟨hstored, hfields, hneeds⟩ => ⟨⟨hstored, hneeds⟩, hfields⟩⟩

/-- Every plan has the columns that are asked for. -/
theorem follows_of_plan {s : Scope} {request : Request} {p : Plan} (hnames : s.schema.HasOwnNames)
    (h : plan s request = .ok p) : p.Follows s.schema request.sorting request.hint := by
  obtain ⟨k, _, _, details, custom, _, hbound, hcustom, -, hwanted, hnone, -, -, hcolumn, -⟩ :=
    exists_parts_of_plan h
  have hdetails : p.bindings.map (·.detail) = s.schema.details.filter (isBound p.details) := by
    have hds := (bindDetails_fits (s.schema.details.filter (isBound p.details))
      baseColumns.length 0).1
    rwa [hbound] at hds
  have hsub : (p.bindings.map (·.detail)).Sublist s.schema.details :=
    hdetails ▸ List.filter_sublist
  refine ⟨hsub, ?_, fun d hd => ?_, fun name => ?_, ?_, ?_⟩
  · rw [show p.bindings.map (·.detail.name) = (p.bindings.map (·.detail)).map (·.name) from
      (List.map_map ..).symm]
    exact (hsub.map _).nodup hnames
  · rw [hdetails, hwanted, mem_isBound_iff hnames hd]
  · rw [hnone, contains_wantedCustom_iff]
  · have hnil := customPart_eq_nil_iff s.schema request.sorting request.hint k
    rw [hcustom] at hnil
    rw [hcolumn, hnone, ← not_iff_not, ← hnil]
    cases custom <;> simp
  · rw [isSome_relationships_iff h, FetchHint.wants_iff]

/-! ## Requests that differ in the rest -/

theorem wantedDetails_congr {hint' : FetchHint} (hdetails : hint'.details = hint.details)
    (hsorting : ∀ name, (∃ o ∈ sorting, o.detail = name) ↔ ∃ o ∈ sorting', o.detail = name) :
    wantedDetails schema sorting' hint' = wantedDetails schema sorting hint := by
  rw [wantedDetails, wantedDetails, hdetails]
  refine if_congr Iff.rfl rfl (NameSet.ext_contains fun name => ?_)
  simp only [NameSet.contains_ofNames_iff, List.mem_flatMap, mem_mentioned_iff, hdetails, hsorting]

theorem wantedCustom_congr {hint' : FetchHint} (hdetails : hint'.details = hint.details)
    (hsorting : ∀ name, (∃ o ∈ sorting, o.detail = name) ↔ ∃ o ∈ sorting', o.detail = name) :
    wantedCustom schema sorting' hint' = wantedCustom schema sorting hint := by
  refine NameSet.ext_contains fun name => ?_
  simp only [contains_wantedCustom_iff, FetchHint.AsksFor, hdetails, hsorting]

/-- The columns are made without a look at the filter or the order. -/
theorem sharesColumns_of_plan {s s' : Scope} {request request' : Request} {p p' : Plan}
    (hschema : s'.schema = s.schema) (halike : request.AsksAlike request')
    (h : plan s request = .ok p) (h' : plan s' request' = .ok p') : p.SharesColumns p' := by
  obtain ⟨k, l, m, details, custom, edges, hbound, hcustom, hedges, hwanted, hnone, -, hcolumns,
    hcustomColumn, hrelationships⟩ := exists_parts_of_plan h
  obtain ⟨k', l', m', details', custom', edges', hbound', hcustom', hedges', hwanted', hnone', -,
    hcolumns', hcustomColumn', hrelationships'⟩ := exists_parts_of_plan h'
  have hhint : request'.hint.details = request.hint.details := by rw [halike.hint_eq]
  have hdetails : p'.details = p.details := by
    rw [hwanted', hwanted, hschema, wantedDetails_congr hhint halike.sorting_iff]
  -- each part starts at the variable the part before has come to, so they are equal one by one
  rw [hschema, hdetails, hbound] at hbound'
  obtain ⟨hparts, rfl⟩ := Prod.mk.inj hbound'
  obtain ⟨rfl, hbindings⟩ := Prod.mk.inj hparts
  have hcustomPart : customPart s'.schema request'.sorting request'.hint =
      customPart s.schema request.sorting request.hint := by
    rw [customPart, customPart, hschema, wantedCustom_congr hhint halike.sorting_iff, hhint]
  rw [hcustomPart, hcustom] at hcustom'
  obtain ⟨rfl, rfl⟩ := Prod.mk.inj hcustom'
  have hedgePart : relationshipPart s'.schema request'.hint =
      relationshipPart s.schema request.hint := by
    rw [hschema, halike.hint_eq]
    rfl
  rw [hedgePart, hedges] at hedges'
  obtain ⟨rfl, rfl⟩ := Prod.mk.inj hedges'
  exact ⟨hbindings.symm, hcolumns'.trans hcolumns.symm, hcustomColumn'.trans hcustomColumn.symm,
    hrelationships'.trans hrelationships.symm⟩

/-- A filter is accepted when it becomes a condition. -/
def Scope.Accepts (s : Scope) (filter : Filter) : Prop :=
  ∃ n c, restriction s filter n = .ok c

theorem Scope.Accepts.exists_plan {s : Scope} {request : Request} (h : s.Accepts request.filter) :
    ∃ p, plan s request = .ok p := by
  obtain ⟨n, c, hc⟩ := h
  cases hplan : plan s request with
  | ok p => exact ⟨p, rfl⟩
  | error r =>
    have hr := (restriction_eq_error_iff s request.filter n r).mpr (plan_eq_error_iff.mp hplan)
    rw [hc] at hr
    cases hr

/-- A hint says what is fetched : the details that are needed, each once and in the order of the
schema, and the free details of unknown names. Neither the filter nor the kind of order nor how many
contacts are wanted changes a column. -/
theorem exists_plans_of_asksAlike {s s' : Scope} {request request' : Request}
    (hnames : s.schema.HasOwnNames) (hschema : s'.schema = s.schema)
    (haccepts : s.Accepts request.filter) (haccepts' : s'.Accepts request'.filter)
    (halike : request.AsksAlike request') :
    ∃ p p', plan s request = .ok p ∧ plan s' request' = .ok p' ∧
      p.Follows s.schema request.sorting request.hint ∧
      p'.Follows s'.schema request'.sorting request'.hint ∧ p.SharesColumns p' := by
  obtain ⟨p, hp⟩ := haccepts.exists_plan
  obtain ⟨p', hp'⟩ := haccepts'.exists_plan
  exact ⟨p, p', hp, hp', follows_of_plan hnames hp, follows_of_plan (hschema ▸ hnames) hp',
    sharesColumns_of_plan hschema halike hp hp'⟩

/-- A schema of persons with a name, a nickname, a label computed from the name, and a detail
without fields. -/
def labelledSchema : Schema := {
  type := .person
  details := [
    { name := Names.name, unique := true, dependencies := [Names.name]
      fields := [
        { name := Names.firstName, type := .text
          chain := [{ iri := Vocabulary.Nco.nickname }] }] },
    { name := Names.nickname, unique := true, dependencies := [Names.nickname]
      fields := [
        { name := Names.nickname, type := .text
          chain := [{ iri := Vocabulary.Nco.nickname }] }] },
    .ofComputed Names.displayLabel [Names.name, "Tag"],
    .ofUnique "Tag"] }

/-- The labels of all persons, sorted by the age of a pet and by nickname. -/
def labelRequest : Request := {
  sorting := [
    { detail := "Pet", field := "Age" },
    { detail := Names.nickname, field := Names.nickname }]
  hint := { details := [Names.displayLabel] } }

/-- The label of one among two persons, sorted by nickname the other way round and by pet. -/
def oneLabelRequest : Request := {
  filter := .ids [7, 9]
  sorting := [
    { detail := Names.nickname, field := Names.nickname, direction := .descending },
    { detail := "Pet", field := "Kind" },
    { detail := "Pet", field := "Age" }]
  hint := { labelRequest.hint with maxCount := some 1 } }

/-- The label needs the name and each order what it sorts by, of which the schema does not know
pets. -/
theorem exists_plans_labelRequest :
    labelledSchema.HasOwnNames ∧ labelRequest.AsksAlike oneLabelRequest ∧
    ∃ p p', plan ⟨labelledSchema, {}, {}⟩ labelRequest = .ok p ∧
      plan ⟨labelledSchema, {}, {}⟩ oneLabelRequest = .ok p' ∧
      p.Follows labelledSchema labelRequest.sorting labelRequest.hint ∧
      p'.Follows labelledSchema oneLabelRequest.sorting oneLabelRequest.hint ∧
      p.SharesColumns p' ∧ p.bindings.map (·.detail.name) = [Names.name, Names.nickname] ∧
      p.customDetails.keys = ["Pet"] ∧ p.customColumn = some 6 := by
  have hnames : labelledSchema.HasOwnNames := by decide
  have halike : labelRequest.AsksAlike oneLabelRequest := {
    hint_eq := rfl
    sorting_iff := by simp [labelRequest, oneLabelRequest, or_comm] }
  have haccepts : Scope.Accepts ⟨labelledSchema, {}, {}⟩ labelRequest.filter := ⟨0, _, rfl⟩
  have haccepts' : Scope.Accepts ⟨labelledSchema, {}, {}⟩ oneLabelRequest.filter := ⟨0, _, rfl⟩
  obtain ⟨p, p', hp, hp', hfollows, hfollows', hshares⟩ :=
    exists_plans_of_asksAlike hnames rfl haccepts haccepts' halike
  have hcolumns : (plan ⟨labelledSchema, {}, {}⟩ labelRequest).map
      (fun p => (p.bindings.map (·.detail.name), p.customDetails.keys, p.customColumn)) =
      .ok ([Names.name, Names.nickname], ["Pet"], some 6) := rfl
  rw [hp] at hcolumns
  obtain ⟨hbindings, hcustom, hcolumn⟩ : _ ∧ _ ∧ _ := by
    simpa only [Except.map, Except.ok.injEq, Prod.mk.injEq] using hcolumns
  exact ⟨hnames, halike, p, p', hp, hp', hfollows, hfollows', hshares, hbindings, hcustom, hcolumn⟩

end Query

end ContactGraph
