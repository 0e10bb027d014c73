import ContactGraph.Proofs.Result.Details
import ContactGraph.Proofs.Result.Values
import Mathlib.Data.List.Nodup

/-!
# Fields that parts set

A part of an instance sets only a field that is read the way its token says (`role_of_mem_partsIn`),
and the sub-type belongs to the first field whose sub-types are kept by property, which is not read
at all (`subTypes_of_mem_bindings`). Since the fields of a detail have different names, what is set
under the name of a field is a value of that field.
-/

namespace ContactGraph

open Query

namespace DetailDefinition

variable {d : DetailDefinition} {i : Nat}

theorem getElem?_fieldAt (h : i < d.fields.length) : d.fields[i]? = some (d.fieldAt i) := by
  simp [fieldAt, h]

theorem fieldAt_mem (h : i < d.fields.length) : d.fieldAt i ∈ d.fields :=
  List.mem_of_getElem? (getElem?_fieldAt h)

/-- The fields of a detail have different names. -/
def HasOwnNames (d : DetailDefinition) : Prop :=
  (d.fields.map (·.name)).Nodup

instance (d : DetailDefinition) : Decidable d.HasOwnNames :=
  inferInstanceAs (Decidable (List.Nodup _))

theorem HasOwnNames.eq_of_name_eq (hnames : d.HasOwnNames) {f g : FieldDefinition}
    (hf : f ∈ d.fields) (hg : g ∈ d.fields) (h : f.name = g.name) : f = g :=
  List.inj_on_of_nodup_map hnames hf hg h

/-- The field for the sub-types has them kept by property. -/
theorem fieldAt_of_propertySubTypes {types : List Labelled}
    (h : d.propertySubTypes = some (i, types)) :
    d.fieldAt i ∈ d.fields ∧ (d.fieldAt i).subTypes = some (.byProperty types) := by
  obtain ⟨⟨f, j⟩, hmem, hf⟩ := List.exists_of_findSome?_eq_some h
  dsimp only at hf
  split at hf
  · rename_i properties hsubTypes
    obtain ⟨rfl, rfl⟩ : j = i ∧ properties = types := by simpa using hf
    have hat : d.fieldAt j = f := by
      rw [fieldAt, List.getD, List.mk_mem_zipIdx_iff_getElem?.mp hmem, Option.getD_some]
    rw [hat]
    exact ⟨(List.mem_zipIdx hmem).2.2 ▸ List.getElem_mem _, hsubTypes⟩
  · cases hf

end DetailDefinition

namespace Query

variable {layout : Layout} {row : Row} {parts : List (Token × String)} {token : Token}
  {text : String} {i : Nat} {r : Role} {b : Binding} {d : DetailDefinition} {f : FieldDefinition}

/-! ## What is read of a field -/

theorem rolesOf_byProperty (d : DetailDefinition) (h : f.byProperty = true) : rolesOf d f = [] := by
  simp [rolesOf, h]

/-- Of a field whose classes are read nothing else is. -/
theorem eq_classes_of_mem_rolesOf (hclasses : .classes ∈ rolesOf d f) (hr : r ∈ rolesOf d f) :
    r = .classes := by
  unfold rolesOf at hclasses hr
  split at hclasses
  · cases hclasses
  · split at hclasses
    · simp_all
    · split at hclasses <;> split at hclasses <;> simp at hclasses

theorem customValues_of_mem_rolesOf (h : .custom ∈ rolesOf d f) : f.customValues = true := by
  unfold rolesOf at h
  split at h
  · cases h
  · split at h
    · simp at h
    · split at h <;> split at h <;> simp_all

/-! ## What parts are about -/

theorem Slot.role?_token (s : Slot) (i : Nat) :
    s.token.role? i = kindRole? i (s.field, s.custom) := by
  unfold token kindRole?
  split <;> simp_all [Token.role?]

theorem Slot.field?_token (s : Slot) : s.token.field? = some s.field := by
  unfold token
  split <;> rfl

/-- The column of a unique detail never holds classes. -/
theorem Slot.token_ne_classes (s : Slot) (i : Nat) : s.token ≠ .classes i := by
  unfold token
  split <;> simp

theorem Token.field?_of_role? (h : token.role? i = some r) : token.field? = some i := by
  by_contra hne
  simp [role?_of_field?_ne hne] at h

/-- A part is about a field of the layout, and read the way the layout says. -/
theorem Layout.role_of_mem_partsIn (hparts : parts ∈ layout.partsIn row) (h : (token, text) ∈ parts)
    (hrole : token.role? i = some r) : i ∈ layout.fields ∧ r ∈ layout.roles i := by
  have hfield := Token.field?_of_role? hrole
  cases layout with
  | unique l =>
    rw [partsIn, List.mem_singleton] at hparts
    subst hparts
    obtain ⟨s, hs, heq⟩ := List.mem_map.mp h
    obtain ⟨rfl, -⟩ := Prod.mk.inj heq
    rw [Slot.field?_token] at hfield
    rw [Slot.role?_token] at hrole
    refine ⟨List.mem_append_left _ ?_, List.mem_filterMap.mpr ⟨s, hs, hrole⟩⟩
    exact List.mem_map.mpr ⟨s, hs, Option.some.inj hfield⟩
  | multi l =>
    obtain ⟨item, -, rfl⟩ := List.mem_map.mp hparts
    have htoken : token ∈ l.tokens := (List.of_mem_zip h).1
    exact ⟨List.mem_append_left _ (List.mem_filterMap.mpr ⟨token, htoken, hfield⟩),
      List.mem_filterMap.mpr ⟨token, htoken, hrole⟩⟩

/-- A part is about a field of the detail, and read the way the field is. -/
theorem Binding.Fits.role_of_mem_partsIn (hfits : b.Fits) (hparts : parts ∈ b.layout.partsIn row)
    (h : (token, text) ∈ parts) (hrole : token.role? i = some r) :
    b.detail.fieldAt i ∈ b.detail.fields ∧ r ∈ rolesOf b.detail (b.detail.fieldAt i) := by
  obtain ⟨hfield, hr⟩ := Layout.role_of_mem_partsIn hparts h hrole
  have hi : i < b.detail.fields.length := hfits.field_lt i hfield
  rw [hfits.roles_eq i _ (DetailDefinition.getElem?_fieldAt hi)] at hr
  exact ⟨DetailDefinition.fieldAt_mem hi, hr⟩

/-! ## Sub-types -/

theorem map_label_subTypeColumns (first : Nat) (types : List Labelled) :
    (subTypeColumns first types).map (·.label) = types.map (·.label) := by
  calc (subTypeColumns first types).map (·.label)
      = (types.zipIdx.map (·.1)).map (·.label) := by
        rw [subTypeColumns, List.map_map, List.map_map]
        rfl
    _ = types.map (·.label) := by rw [List.zipIdx_map_fst]

/-- The field for the sub-type is the first whose sub-types are kept by property, and the columns
are those of its sub-types. -/
theorem subTypes_detailColumns (d : DetailDefinition) (first n : Nat) :
    (detailColumns d first n).1.2.subTypeField = d.propertySubTypes.map (·.1) ∧
      (detailColumns d first n).1.2.subTypeLabels = (propertyTypes d).map (·.label) := by
  unfold detailColumns
  split
  · obtain ⟨cells, subTypes, uris, heq, -⟩ := uniqueColumns_eq d first n
    show (Layout.unique (uniqueColumns d first n).1.2).subTypeField = _ ∧
      (Layout.unique (uniqueColumns d first n).1.2).subTypeLabels = _
    rw [heq]
    exact ⟨rfl, map_label_subTypeColumns _ _⟩
  · obtain ⟨main, subTypes, heq, -⟩ := multiColumns_eq d first n
    show (Layout.multi (multiColumns d first n).1.2).subTypeField = _ ∧
      (Layout.multi (multiColumns d first n).1.2).subTypeLabels = _
    rw [heq]
    exact ⟨rfl, map_label_subTypeColumns _ _⟩

/-- The columns of a unique detail are those of one, and the columns of another of one that can be
many. -/
theorem layout_of_unique {s : Scope} {request : Request} {p : Plan} (h : plan s request = .ok p)
    (hb : b ∈ p.bindings) :
    (b.detail.unique = true ∧ ∃ l, b.layout = .unique l) ∨
      b.detail.unique = false ∧ ∃ l, b.layout = .multi l := by
  obtain ⟨-, k, hlayout⟩ := layout_of_mem_bindings h hb
  unfold detailColumns at hlayout
  split at hlayout
  · rename_i hunique
    exact .inl ⟨hunique, _, hlayout⟩
  · rename_i hmany
    exact .inr ⟨Bool.eq_false_iff.mpr hmany, _, hlayout⟩

/-- The sub-type of a detail is one that its field has by property. -/
theorem subTypes_of_mem_bindings {s : Scope} {request : Request} {p : Plan}
    (h : plan s request = .ok p) (hb : b ∈ p.bindings) (hi : b.layout.subTypeField = some i) :
    b.detail.fieldAt i ∈ b.detail.fields ∧ (b.detail.fieldAt i).byProperty = true ∧
      b.layout.subTypeLabels = (b.detail.fieldAt i).subTypeLabels := by
  obtain ⟨-, k, hlayout⟩ := layout_of_mem_bindings h hb
  obtain ⟨hfield, hlabels⟩ := subTypes_detailColumns b.detail b.first k
  rw [hlayout, hfield] at hi
  obtain ⟨⟨j, types⟩, htypes, rfl⟩ := Option.map_eq_some_iff.mp hi
  obtain ⟨hmem, hsubTypes⟩ := DetailDefinition.fieldAt_of_propertySubTypes htypes
  refine ⟨hmem, by simp [FieldDefinition.byProperty, hsubTypes], ?_⟩
  rw [hlayout, hlabels, propertyTypes, htypes]
  simp [FieldDefinition.subTypeLabels, hsubTypes]

end Query

end ContactGraph
