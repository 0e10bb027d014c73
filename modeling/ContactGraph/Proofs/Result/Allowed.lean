import ContactGraph.Proofs.Result.Fields

/-!
# Allowed values

A typed value outside the allowed texts of its field gives way to the default. Labels of instances
and of sub-types become values without being looked up among the allowed texts, and so do free
properties. So without free properties every text of a field is allowed or a label, when the
defaults are allowed (`mem_allowed_of_mem_contacts`); a free property, the label of an instance and
that of a sub-type need not be (`outside_goldenBadge`).
-/

namespace ContactGraph

open Query

namespace FieldDefinition

/-- The labels that may become values : those of instances and of sub-types. -/
def labels (f : FieldDefinition) : List String :=
  f.instances.map (·.label) ++ f.subTypeLabels

/-- Every text of a value is allowed or is a label. -/
def Knows (f : FieldDefinition) (v : Value) : Prop :=
  ∀ t ∈ wantedTexts v, t ∈ f.allowed ∨ t ∈ f.labels

/-- The default is allowed. -/
def HasAllowedDefault (f : FieldDefinition) : Prop :=
  ∀ v, f.default = some v → ∀ t ∈ wantedTexts v, t ∈ f.allowed

variable {f : FieldDefinition} {v : Value} {t : String}

theorem mem_allowed_of_allows (hf : f.allowed ≠ []) (h : f.allows t = true) : t ∈ f.allowed := by
  simpa [allows, hf] using h

theorem HasAllowedDefault.knows (h : f.HasAllowedDefault) (hv : f.default = some v) : f.Knows v :=
  fun t ht => .inl (h v hv t ht)

end FieldDefinition

namespace Query

variable {b : Binding} {f : FieldDefinition}

/-- In a row there are free properties for a field. -/
def Binding.HasFree (b : Binding) (row : Row) (f : FieldDefinition) : Prop :=
  ∃ parts ∈ b.layout.partsIn row, ∃ i text, (Token.custom i, text) ∈ parts ∧
    b.detail.fieldAt i = f ∧ Packed.listItems text ≠ []

/-- There are none for a field that takes none. -/
theorem Binding.Fits.not_hasFree (hfits : b.Fits) (hcustom : f.customValues = false) (row : Row) :
    ¬ b.HasFree row f := by
  rintro ⟨parts, hparts, i, text, hmem, rfl, -⟩
  have hrole := (hfits.role_of_mem_partsIn hparts hmem (if_pos rfl)).2
  simp [customValues_of_mem_rolesOf hrole] at hcustom

end Query

namespace Result

variable {frame : Frame} {d : DetailDefinition} {row : Row} {b : Query.Binding} {x : Detail}
  {f : FieldDefinition} {parts : List (Token × String)} {ids : IdCache} {raw field : String}
  {v : Value}

/-! ## Values of texts and labels -/

theorem knows_labelsValue {type : ValueType} {labels : List String}
    (hlabels : ∀ label ∈ labels, label ∈ f.labels) (h : labelsValue type labels = some v) :
    f.Knows v := by
  intro t ht
  rcases labelsValue_eq_some h with rfl | ⟨label, hlabel, rfl⟩
  · exact .inr (hlabels t ht)
  · rw [List.mem_singleton.mp ht]
    exact .inr (hlabels label hlabel)

theorem knows_instanceValue (hdefault : f.HasAllowedDefault)
    (h : instanceValue ids f raw = some v) : f.Knows v := by
  rcases instanceValue_eq_some h with h | ⟨labels, -, hlabels, h⟩
  · exact hdefault.knows h
  · exact knows_labelsValue (fun label hlabel => List.mem_append_left _ (hlabels hlabel)) h

theorem knows_allowedValue {w : Value} (hf : f.allowed ≠ []) (hdefault : f.HasAllowedDefault)
    (h : allowedValue f w = some v) : f.Knows v := by
  rcases allowedValue_eq_some h with h | ⟨hallows, -⟩
  · exact hdefault.knows h
  · exact fun t ht => .inl (FieldDefinition.mem_allowed_of_allows hf (hallows t ht))

/-- What is read of a field is allowed or a label. -/
theorem knows_fieldValue (hf : f.allowed ≠ []) (hdefault : f.HasAllowedDefault)
    (h : fieldValue ids f raw = some v) : f.Knows v := by
  obtain ⟨-, h | ⟨w, -, h⟩⟩ := fieldValue_eq_some h
  · exact knows_instanceValue hdefault h
  · exact knows_allowedValue hf hdefault h

theorem knows_subTypeValue {labels : List String} (hdefault : f.HasAllowedDefault)
    (hlabels : labels ⊆ f.subTypeLabels) (h : subTypeValue f labels = some v) : f.Knows v := by
  rcases subTypeValue_eq_some h with h | rfl | h
  · exact hdefault.knows h
  · simp [FieldDefinition.Knows, wantedTexts]
  · exact knows_labelsValue (fun label hlabel => List.mem_append_right _ (hlabels hlabel)) h

theorem knows_classValue (hdefault : f.HasAllowedDefault) (h : classValue ids f raw = some v) :
    f.Knows v := by
  obtain ⟨labels, hlabels, h⟩ := classValue_eq_some h
  exact knows_subTypeValue hdefault hlabels h

/-! ## Values of details -/

/-- In a draft the values of a field for which there are no free properties are allowed or labels.
-/
theorem knows_of_value?_draftOf (hfits : b.Fits) (hnames : b.detail.HasOwnNames)
    (hparts : parts ∈ b.layout.partsIn row) (hmem : f ∈ b.detail.fields) (hf : f.allowed ≠ [])
    (hdefault : f.HasAllowedDefault) (hfree : ¬ b.HasFree row f)
    (h : (draftOf frame b.detail parts).detail.value? f.name = some v) : f.Knows v := by
  refine forall_value?_draftOf (P := fun field v => field = f.name → f.Knows v) ?_ _ v h rfl
  intro x _ p hp i v hsets hname
  -- the part is about the field itself
  have hself : ∀ r, p.1.role? i = some r → b.detail.fieldAt i = f := fun r hrole =>
    hnames.eq_of_name_eq (hfits.role_of_mem_partsIn hparts hp hrole).1 hmem hname
  cases hsets with
  | value hv =>
    rw [hself .value (if_pos rfl)] at hv
    exact knows_fieldValue hf hdefault hv
  | added hitems =>
    exact absurd ⟨parts, hparts, i, _, hp, hself .custom (if_pos rfl), hitems⟩ hfree
  | custom hitems =>
    exact absurd ⟨parts, hparts, i, _, hp, hself .custom (if_pos rfl), hitems⟩ hfree
  | classes hv =>
    rw [hself .classes (if_pos rfl)] at hv
    exact knows_classValue hdefault hv

/-- In what a binding tells the values of a field are allowed or labels, when there are no free
properties for it. -/
theorem knows_of_mem_detailsOf {s : Scope} {request : Request} {p : Plan}
    (hplan : plan s request = .ok p) (hb : b ∈ p.bindings) (hnames : b.detail.HasOwnNames)
    (hmem : f ∈ b.detail.fields) (hf : f.allowed ≠ []) (hdefault : f.HasAllowedDefault)
    (hfree : ¬ b.HasFree row f) (hx : x ∈ detailsOf frame row b)
    (h : x.value? f.name = some v) : f.Knows v := by
  have hfits : b.Fits := (isPartition_of_plan hplan).fits b hb
  obtain ⟨parts, hparts, hmade⟩ := exists_isMadeOf hx
  obtain ⟨labels, hlabels, hvalues⟩ := hmade.values_eq
  rw [Detail.value?_congr hvalues] at h
  rcases value?_withSubType h with h | ⟨i, hi, hname, h⟩
  · exact knows_of_value?_draftOf hfits hnames hparts hmem hf hdefault hfree h
  · obtain ⟨hat, -, hcolumns⟩ := subTypes_of_mem_bindings hplan hb hi
    rw [hcolumns] at hlabels
    rw [hnames.eq_of_name_eq hat hmem hname] at h hlabels
    exact knows_subTypeValue hdefault hlabels h

/-- When the defaults of a schema are allowed, every detail of a contact is free or made by a
binding, and what the binding makes of a field with allowed texts is allowed or one of the labels of
the field, unless the row has free properties for it. -/
theorem mem_allowed_of_mem_contacts {s : Scope} {request : Request} {p : Plan} {table : Table}
    {limit : Option Nat} {canceled : Bool} {cs : List Contact} {c : Contact}
    (hdefaults : ∀ d ∈ s.schema.details, ∀ f ∈ d.fields, f.allowed ≠ [] → f.HasAllowedDefault)
    (hplan : plan s request = .ok p) (h : contacts frame p limit canceled table = .ok cs)
    (hc : c ∈ cs) (hx : x ∈ c.details) :
    (∃ row ∈ rowsOf c.localId table, x ∈ freeDetailsOf frame p row) ∨
      ∃ row ∈ rowsOf c.localId table, ∃ b ∈ p.bindings, x ∈ detailsOf frame row b ∧
        (b.detail.HasOwnNames → ∀ f ∈ b.detail.fields, f.allowed ≠ [] → ¬ b.HasFree row f →
          ∀ v, x.value? f.name = some v → ∀ t ∈ wantedTexts v, t ∈ f.allowed ∨ t ∈ f.labels) := by
  obtain ⟨row, hrow, ⟨b, hb, hbound⟩ | hfree⟩ := isTold_of_mem_contacts h hc hx
  · refine .inr ⟨row, hrow, b, hb, hbound, fun hnames f hmem hf hnone v hv => ?_⟩
    have hdefault := hdefaults _ (layout_of_mem_bindings hplan hb).1 f hmem hf
    exact knows_of_mem_detailsOf hplan hb hnames hmem hf hdefault hnone hbound hv
  · exact .inl ⟨row, hrow, hfree⟩

/-- Badges, with allowed texts for every field. -/
def badge : DetailDefinition :=
  { name := "Badge", unique := true, dependencies := ["Badge"]
    fields := [
      { name := "Colors", type := .list, chain := [{ iri := "urn:color" }],
        allowed := ["red", "green"] },
      { name := "Size", type := .text, chain := [{ iri := "urn:size" }],
        default := some (.text "small"), allowed := ["small", "large"] },
      { name := "Metal", type := .text, chain := [{ iri := "urn:metal" }],
        instances := [⟨"urn:gold", "gold"⟩], allowed := ["silver"] },
      { name := "Mottos", type := .list, withoutMapping := true, customValues := true,
        allowed := ["one"] },
      { name := "Side", type := .text, chain := [{ iri := "urn:side" }],
        subTypes := some (.byProperty [⟨"urn:left", "left"⟩]), allowed := ["right"] }] }

/-- Persons with a badge. -/
def badgeScope : Scope :=
  { schema := { type := .person, details := [badge] }, settings := {}, ids := {} }

/-- A reader that knows gold by its number. -/
def goldFrame : Frame :=
  ⟨{}, IdCache.insert {} "urn:gold" 7⟩

/-- A badge with two colors, one of which is not allowed, and a size that is not. It is golden, has
a motto and is worn on the left. -/
def goldenBadge : Table := [
  [none, some "1", none, none, some "red\x1dblue", some "huge", some "7", some "two", some "left"]]

theorem hasAllowedDefault_badge : ∀ d ∈ badgeScope.schema.details, ∀ f ∈ d.fields,
    f.allowed ≠ [] → f.HasAllowedDefault := by
  simp [badgeScope, badge, FieldDefinition.HasAllowedDefault, wantedTexts, Value.toText]

/-- Of the golden badge the allowed color is kept, the size gives way to the default, and the metal
is the label of gold. -/
theorem mem_allowed_goldenBadge : ∃ p c x, plan badgeScope {} = .ok p ∧
    contacts goldFrame p none false goldenBadge = .ok [c] ∧ c.details = [x] ∧
    ["Colors", "Size", "Metal"].map (fun field => (x.value? field).map wantedTexts) =
      [some ["red"], some ["small"], some ["gold"]] ∧
    ∀ f ∈ badge.fields, f.customValues = false → ∀ v, x.value? f.name = some v →
      ∀ t ∈ wantedTexts v, t ∈ f.allowed ∨ t ∈ f.labels := by
  obtain ⟨p, c, x, hp, hc, hx, hvalues, hfree, hdetail⟩ : ∃ p c x, plan badgeScope {} = .ok p ∧
      contacts goldFrame p none false goldenBadge = .ok [c] ∧ c.details = [x] ∧
      ["Colors", "Size", "Metal"].map (fun field => (x.value? field).map wantedTexts) =
        [some ["red"], some ["small"], some ["gold"]] ∧
      (∀ row ∈ rowsOf c.localId goldenBadge, freeDetailsOf goldFrame p row = []) ∧
      ∀ b ∈ p.bindings, b.detail = badge :=
    ⟨_, _, _, rfl, rfl, rfl, by decide +kernel, List.forall_mem_singleton.mpr rfl,
      List.forall_mem_singleton.mpr rfl⟩
  refine ⟨p, c, x, hp, hc, hx, hvalues, fun f hf hcustom => ?_⟩
  have hmem : x ∈ c.details := by simp [hx]
  rcases mem_allowed_of_mem_contacts hasAllowedDefault_badge hp hc (List.mem_singleton_self c) hmem
    with ⟨row, hrow, hnone⟩ | ⟨row, -, b, hb, -, hknown⟩
  · rw [hfree row hrow] at hnone
    cases hnone
  · have hnone := ((isPartition_of_plan hp).fits b hb).not_hasFree hcustom row
    have hallowed : ∀ f ∈ badge.fields, f.allowed ≠ [] := by decide
    rw [hdetail b hb] at hknown
    exact hknown (by decide) f hf (hallowed f hf) hnone

/-- The metal, the mottos and the side of the golden badge are none of the allowed ones. -/
theorem outside_goldenBadge :
    (∀ d ∈ badgeScope.schema.details, ∀ f ∈ d.fields, f.allowed ≠ [] → f.HasAllowedDefault) ∧
    ∃ p c, plan badgeScope {} = .ok p ∧
    contacts goldFrame p none false goldenBadge = .ok [c] ∧
    (badge.fields.drop 2).map (fun f =>
        (f.allowed, c.details.map fun x => (x.value? f.name).map wantedTexts)) =
      [(["silver"], [some ["gold"]]), (["one"], [some ["two"]]), (["right"], [some ["left"]])] :=
  ⟨hasAllowedDefault_badge, _, _, rfl, rfl, by decide +kernel⟩

end Result

end ContactGraph
