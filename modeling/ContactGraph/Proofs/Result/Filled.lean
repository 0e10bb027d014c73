import ContactGraph.Proofs.Result.Fields
import ContactGraph.Proofs.Schema.Coercion

/-!
# Details with something in them

A unique detail is kept only when some field of it has something in it, and so is a free one; a
detail that can be many is kept when some part of it sets a value, whatever the value. A typed part
that is not a text of separators alone has a value with something in it, when the defaults and the
labels of the instances have (`isEmpty_fieldValue`). So all details of contacts have something in
them, but those that can be many and have a typed part of separators alone, or a default or a label
without a text (`isEmpty_of_mem_contacts`); such a detail can be empty (`isEmpty_bareHobby`).
-/

namespace ContactGraph

open Query

namespace Packed

/-- A text of separators alone : it is not empty, but there is no item in it. -/
def IsBare (s : String) : Prop :=
  s ≠ "" ∧ listItems s = []

end Packed

namespace FieldDefinition

/-- The default has something in it, and so have the labels of the instances. -/
structure IsFilled (f : FieldDefinition) : Prop where
  /-- The default is not empty. -/
  default : ∀ v, f.default = some v → v.isEmpty = false
  /-- No instance stands for the empty text. -/
  label : ∀ l ∈ f.instances, l.label ≠ ""

end FieldDefinition

namespace DetailDefinition

/-- The values or the free properties of a field are read. -/
def IsRead (d : DetailDefinition) (field : String) : Prop :=
  ∃ f ∈ d.fields, f.name = field ∧ ∃ r ∈ rolesOf d f, r ≠ .classes

end DetailDefinition

namespace Query

/-- For some field of a detail there may stand a value with nothing in it : a default, a label, or
what a typed part of separators alone says. -/
def Binding.MayBeBlank (b : Binding) (row : Row) : Prop :=
  (∃ f ∈ b.detail.fields, ¬ f.IsFilled) ∨
    ∃ parts ∈ b.layout.partsIn row, ∃ i text, (Token.value i, text) ∈ parts ∧
      Packed.IsBare (Result.splitOwned b.detail text).1

end Query

namespace Result

variable {frame : Frame} {d : DetailDefinition} {row : Row} {b : Query.Binding} {x : Detail}
  {f : FieldDefinition} {parts : List (Token × String)} {ids : IdCache} {raw field : String}
  {v : Value}

/-! ## Values of texts -/

theorem isEmpty_labelsValue {type : ValueType} {labels : List String}
    (hlabels : ∀ label ∈ labels, label ≠ "") (hne : labels ≠ [])
    (h : labelsValue type labels = some v) : v.isEmpty = false := by
  rcases labelsValue_eq_some h with rfl | ⟨label, hlabel, rfl⟩
  · simpa [Value.isEmpty] using hne
  · simpa [Value.isEmpty] using hlabels label hlabel

theorem isEmpty_instanceValue (hf : f.IsFilled) (h : instanceValue ids f raw = some v) :
    v.isEmpty = false := by
  rcases instanceValue_eq_some h with h | ⟨labels, hne, hlabels, h⟩
  · exact hf.default v h
  · refine isEmpty_labelsValue (fun label hlabel => ?_) hne h
    obtain ⟨i, hi, rfl⟩ := List.mem_map.mp (hlabels hlabel)
    exact hf.label i hi

theorem isEmpty_read? {type : ValueType} (hitems : Packed.listItems raw ≠ [])
    (h : type.read? raw = some v) : v.isEmpty = false := by
  obtain ⟨item, rest, heq⟩ := List.exists_cons_of_ne_nil hitems
  have hmem : item ∈ Packed.listItems raw := by simp [heq]
  have hitem : item ≠ "" := Packed.ne_empty_of_mem_items hmem
  have hraw : raw ≠ "" := by
    rintro rfl
    exact hitems rfl
  cases type <;> simp only [ValueType.read?, heq, Option.map_eq_some_iff, Option.some.injEq] at h
  case text => simp [← h, Value.isEmpty, hitem]
  case list => simp [← h, Value.isEmpty]
  case url => simp [← h, Value.isEmpty, hraw]
  all_goals
    obtain ⟨_, -, rfl⟩ := h
    rfl

theorem isEmpty_allowedValue {w : Value} (hf : f.IsFilled) (hw : w.isEmpty = false)
    (h : allowedValue f w = some v) : v.isEmpty = false := by
  rcases allowedValue_eq_some h with h | ⟨-, rfl | ⟨items, rfl, hne⟩⟩
  · exact hf.default v h
  · exact hw
  · simpa [Value.isEmpty] using hne

/-- What is not a text of separators alone has a value with something in it, if any. -/
theorem isEmpty_fieldValue (hf : f.IsFilled) (hraw : ¬ Packed.IsBare raw)
    (h : fieldValue ids f raw = some v) : v.isEmpty = false := by
  obtain ⟨hne, h | ⟨w, hread, h⟩⟩ := fieldValue_eq_some h
  · exact isEmpty_instanceValue hf h
  · have hitems : Packed.listItems raw ≠ [] := fun hnil => hraw ⟨hne, hnil⟩
    exact isEmpty_allowedValue hf (isEmpty_read? hitems hread) h

/-- Free properties have something in them whatever the type of the field. -/
theorem isEmpty_coerce_listItems {type : ValueType} (hitems : Packed.listItems raw ≠ [])
    (h : type.coerce (.list (Packed.listItems raw)) = .ok v) : v.isEmpty = false := by
  obtain ⟨item, rest, heq⟩ := List.exists_cons_of_ne_nil hitems
  have hmem : item ∈ Packed.listItems raw := by simp [heq]
  have hitem : Packed.listItems item = [item] := Packed.items_of_mem_items hmem
  by_cases htype : type = .list
  · subst htype
    cases h
    simpa [Value.isEmpty] using hitems
  · rw [heq, ValueType.coerce_cons htype, ValueType.decode_eq_ok_iff] at h
    exact isEmpty_read? (by rw [hitem]; exact List.cons_ne_nil _ _) h

/-! ## Values of drafts -/

/-- A part that sets a value or free properties is about a field that is read. -/
theorem isRead_of_mem_partsIn {token : Token} {text : String} {i : Nat} {r : Role} (hfits : b.Fits)
    (hparts : parts ∈ b.layout.partsIn row) (h : (token, text) ∈ parts)
    (hrole : token.role? i = some r) (hr : r ≠ .classes) :
    b.detail.IsRead (b.detail.fieldAt i).name := by
  obtain ⟨hmem, hread⟩ := hfits.role_of_mem_partsIn hparts h hrole
  exact ⟨_, hmem, rfl, r, hread, hr⟩

/-- The field for the sub-type is not read. -/
theorem not_isRead_subTypeField {s : Scope} {request : Request} {p : Plan} {i : Nat}
    (hplan : plan s request = .ok p) (hb : b ∈ p.bindings) (hnames : b.detail.HasOwnNames)
    (hi : b.layout.subTypeField = some i) : ¬ b.detail.IsRead (b.detail.fieldAt i).name := by
  rintro ⟨f, hf, hname, r, hr, -⟩
  obtain ⟨hmem, hproperty, -⟩ := subTypes_of_mem_bindings hplan hb hi
  rw [hnames.eq_of_name_eq hf hmem hname, rolesOf_byProperty _ hproperty] at hr
  exact List.not_mem_nil hr

/-- A part that sets a value gives its field one. -/
theorem value?_withPart_of_setsValue {draft : Draft} {p : Token × String}
    (h : setsValue frame d draft p = true) : ∃ i, (p.1 = .value i ∨ p.1 = .custom i) ∧
      ((withPart frame d draft p).detail.value? (d.fieldAt i).name).isSome := by
  obtain ⟨token, text⟩ := p
  cases token with
  | uri => cases h
  | classes i => cases h
  | value i =>
    obtain ⟨v, hv⟩ := Option.isSome_iff_exists.mp h
    exact ⟨i, .inl rfl, by simp [withPart, hv, setIfSome]⟩
  | custom i =>
    obtain ⟨y, hy⟩ := Option.isSome_iff_exists.mp h
    refine ⟨i, .inr rfl, ?_⟩
    obtain ⟨-, ⟨there, -, rfl⟩ | ⟨v, -, rfl⟩⟩ := addCustom?_eq_some hy <;> simp [withPart, hy]

/-- When some part sets a value, a field has one when all parts are added. -/
theorem exists_value?_of_anySetsValue {draft : Draft}
    (h : anySetsValue frame d draft parts = true) :
    ∃ p ∈ parts, ∃ i, (p.1 = .value i ∨ p.1 = .custom i) ∧
      ((parts.foldl (withPart frame d) draft).detail.value? (d.fieldAt i).name).isSome := by
  induction parts generalizing draft with
  | nil => cases h
  | cons p ps ih =>
    rw [anySetsValue, Bool.or_eq_true] at h
    rcases h with h | h
    · obtain ⟨i, hi, hvalue⟩ := value?_withPart_of_setsValue h
      refine ⟨p, List.mem_cons_self, i, hi, ?_⟩
      exact List.foldlRecOn (motive := fun draft : Draft =>
        (draft.detail.value? (d.fieldAt i).name).isSome) ps _ hvalue
          fun _ hvalue _ _ => value?_withPart_isSome hvalue
    · obtain ⟨q, hq, i, hi, hvalue⟩ := ih h
      exact ⟨q, List.mem_cons_of_mem p hq, i, hi, hvalue⟩

/-- In the draft of a unique detail only fields that are read have values. -/
theorem isRead_of_value?_draftOf {l : UniqueLayout} (hfits : b.Fits) (hl : b.layout = .unique l)
    (hparts : parts ∈ b.layout.partsIn row)
    (h : (draftOf frame b.detail parts).detail.value? field = some v) : b.detail.IsRead field := by
  refine forall_value?_draftOf (P := fun field _ => b.detail.IsRead field) ?_ field v h
  intro x _ p hp i v hsets
  cases hsets with
  | value => exact isRead_of_mem_partsIn hfits hparts hp (if_pos rfl) nofun
  | added => exact isRead_of_mem_partsIn hfits hparts hp (if_pos rfl) nofun
  | custom => exact isRead_of_mem_partsIn hfits hparts hp (if_pos rfl) nofun
  | classes =>
    rw [hl, Layout.partsIn, List.mem_singleton] at hparts
    subst hparts
    obtain ⟨s, -, heq⟩ := List.mem_map.mp hp
    exact absurd (Prod.mk.inj heq).1 (Slot.token_ne_classes s i)

/-- Of a detail that can be many the fields that are read have something in them. -/
theorem isEmpty_of_value?_draftOf (hfits : b.Fits) (hnames : b.detail.HasOwnNames)
    (hblank : ¬ b.MayBeBlank row) (hparts : parts ∈ b.layout.partsIn row)
    (hread : b.detail.IsRead field)
    (h : (draftOf frame b.detail parts).detail.value? field = some v) : v.isEmpty = false := by
  unfold Query.Binding.MayBeBlank at hblank
  rw [not_or] at hblank
  have hfilled : ∀ f ∈ b.detail.fields, f.IsFilled := by simpa using hblank.1
  have hbare : ∀ parts ∈ b.layout.partsIn row, ∀ i text, (Token.value i, text) ∈ parts →
      ¬ Packed.IsBare (splitOwned b.detail text).1 := by simpa using hblank.2
  refine forall_value?_draftOf
    (P := fun field v => b.detail.IsRead field → v.isEmpty = false) ?_ field v h hread
  intro x _ p hp i v hsets hread
  cases hsets with
  | @value _ text _ hv =>
    obtain ⟨hmem, -⟩ := hfits.role_of_mem_partsIn hparts hp (if_pos rfl)
    exact isEmpty_fieldValue (hfilled _ hmem) (hbare parts hparts i text hp) hv
  | added hitems => simp [Value.isEmpty, hitems]
  | custom hitems hv => exact isEmpty_coerce_listItems hitems hv
  | classes =>
    obtain ⟨hmem, hclasses⟩ := hfits.role_of_mem_partsIn hparts hp (if_pos rfl)
    obtain ⟨f, hf, hname, r, hr, hne⟩ := hread
    rw [hnames.eq_of_name_eq hf hmem hname] at hr
    exact absurd (eq_classes_of_mem_rolesOf hclasses hr) hne

/-! ## Details of contacts -/

/-- There is something in what a binding tells, unless it is a detail that can be many and may be
blank. -/
theorem isEmpty_of_mem_detailsOf {s : Scope} {request : Request} {p : Plan}
    (hplan : plan s request = .ok p) (hb : b ∈ p.bindings) (hnames : b.detail.HasOwnNames)
    (hx : x ∈ detailsOf frame row b) :
    x.isEmpty = false ∨ b.detail.unique = false ∧ b.MayBeBlank row := by
  have hfits : b.Fits := (isPartition_of_plan hplan).fits b hb
  obtain ⟨parts, hparts, hmade⟩ := exists_isMadeOf hx
  -- what is read in the draft is left alone by the sub-type
  have hkeep : ∀ field v, b.detail.IsRead field → v.isEmpty = false →
      (draftOf frame b.detail parts).detail.value? field = some v → x.isEmpty = false := by
    intro field v hread hv hdraft
    obtain ⟨labels, -, hvalues⟩ := hmade.values_eq
    refine Detail.isEmpty_eq_false_iff.mpr ⟨field, v, ?_, hv⟩
    rw [Detail.value?_congr hvalues, value?_withSubType_of_ne, hdraft]
    intro i hi hname
    exact not_isRead_subTypeField hplan hb hnames hi (hname ▸ hread)
  obtain ⟨hunique, l, hl⟩ | ⟨hmany, l, hl⟩ := layout_of_unique hplan hb
  · obtain ⟨field, v, hvalue, hv⟩ := Detail.isEmpty_eq_false_iff.mp (hmade.unique l hl)
    exact .inl (hkeep field v (isRead_of_value?_draftOf hfits hl hparts hvalue) hv hvalue)
  · by_cases hblank : b.MayBeBlank row
    · exact .inr ⟨hmany, hblank⟩
    · obtain ⟨⟨token, text⟩, hp, i, hi, hvalue⟩ := exists_value?_of_anySetsValue (hmade.multi l hl)
      obtain ⟨v, hv⟩ := Option.isSome_iff_exists.mp hvalue
      have hread : b.detail.IsRead (b.detail.fieldAt i).name := by
        rcases hi with rfl | rfl
        · exact isRead_of_mem_partsIn hfits hparts hp (if_pos rfl) nofun
        · exact isRead_of_mem_partsIn hfits hparts hp (if_pos rfl) nofun
      have hfilled : v.isEmpty = false :=
        isEmpty_of_value?_draftOf hfits hnames hblank hparts hread hv
      exact .inl (hkeep _ v hread hfilled hv)

/-- Free details have something in them. -/
theorem isEmpty_of_mem_freeDetailsOf {p : Plan} (hx : x ∈ freeDetailsOf frame p row) :
    x.isEmpty = false := by
  unfold freeDetailsOf at hx
  split at hx
  · obtain ⟨item, -, hitem⟩ := List.mem_filterMap.mp hx
    unfold readCustom at hitem
    split at hitem
    · dsimp only at hitem
      split at hitem
      · cases hitem
      · rename_i hne
        rw [← Option.some.inj hitem]
        exact Bool.eq_false_iff.mpr hne
    · cases hitem
  · cases hx

/-- There is something in every detail of a contact, whatever the rows say, but for details that can
be many and may be blank. -/
theorem isEmpty_of_mem_contacts {s : Scope} {request : Request} {p : Plan} {table : Table}
    {limit : Option Nat} {canceled : Bool} {cs : List Contact} {c : Contact}
    (hplan : plan s request = .ok p) (h : contacts frame p limit canceled table = .ok cs)
    (hc : c ∈ cs) (hx : x ∈ c.details) :
    x.isEmpty = false ∨ ∃ row ∈ rowsOf c.localId table, ∃ b ∈ p.bindings,
      x ∈ detailsOf frame row b ∧
        (b.detail.HasOwnNames → b.detail.unique = false ∧ b.MayBeBlank row) := by
  obtain ⟨row, hrow, ⟨b, hb, hbound⟩ | hfree⟩ := isTold_of_mem_contacts h hc hx
  · by_cases hempty : x.isEmpty = false
    · exact .inl hempty
    · refine .inr ⟨row, hrow, b, hb, hbound, fun hnames => ?_⟩
      exact (isEmpty_of_mem_detailsOf hplan hb hnames hbound).resolve_left hempty
  · exact .inl (isEmpty_of_mem_freeDetailsOf hfree)

/-- Hobbies, of which a contact can have many. -/
def hobby : DetailDefinition :=
  { name := "Hobby", unique := false, dependencies := ["Hobby"]
    chain := [{ iri := "urn:hobby" }]
    fields := [{ name := "Name", type := .text, chain := [{ iri := "urn:name" }] }] }

/-- Persons with hobbies. -/
def hobbyScope : Scope :=
  { schema := { type := .person, details := [hobby] }, settings := {}, ids := {} }

/-- A person with two hobbies. -/
def chessAndGo : Table := [[none, some "1", none, none, some "chess\x1ego"]]

/-- There is something in both hobbies. -/
theorem isEmpty_chessAndGo : ∃ p c, plan hobbyScope {} = .ok p ∧
    contacts ⟨{}, {}⟩ p none false chessAndGo = .ok [c] ∧
    c.details.map (·.text "Name") = ["chess", "go"] ∧ ∀ x ∈ c.details, x.isEmpty = false := by
  obtain ⟨p, c, hp, hc, htexts, hparts⟩ : ∃ p c, plan hobbyScope {} = .ok p ∧
      contacts ⟨{}, {}⟩ p none false chessAndGo = .ok [c] ∧
      c.details.map (·.text "Name") = ["chess", "go"] ∧
      ∀ row ∈ rowsOf c.localId chessAndGo, ∀ b ∈ p.bindings, b.detail = hobby ∧
        b.layout.partsIn row = [[(.value 0, "chess")], [(.value 0, "go")]] :=
    ⟨_, _, rfl, rfl, by decide +kernel,
      List.forall_mem_singleton.mpr (List.forall_mem_singleton.mpr ⟨rfl, rfl⟩)⟩
  refine ⟨p, c, hp, hc, htexts, fun x hx => ?_⟩
  rcases isEmpty_of_mem_contacts hp hc (List.mem_singleton_self c) hx with h | h
  · exact h
  · obtain ⟨row, hrow, b, hb, -, hblank⟩ := h
    obtain ⟨hdetail, hrowParts⟩ := hparts row hrow b hb
    rw [hdetail] at hblank
    obtain ⟨-, ⟨f, hf, hfilled⟩ | ⟨parts, hparts, i, text, hmem, hbare⟩⟩ := hblank (by decide)
    · rw [hdetail] at hf
      rw [List.mem_singleton.mp hf] at hfilled
      exact absurd ⟨by simp, by simp⟩ hfilled
    · rw [hrowParts] at hparts
      rw [hdetail] at hbare
      obtain rfl | rfl : text = "chess" ∨ text = "go" := by
        simp only [List.mem_cons, List.not_mem_nil, or_false] at hparts
        rcases hparts with rfl | rfl
        · exact .inl (Prod.mk.inj (List.mem_singleton.mp hmem)).2
        · exact .inr (Prod.mk.inj (List.mem_singleton.mp hmem)).2
      · exact absurd hbare.2 (by decide +kernel)
      · exact absurd hbare.2 (by decide +kernel)

/-- A hobby of a list separator alone is a detail with nothing in it. -/
theorem isEmpty_bareHobby : ∃ p c, plan hobbyScope {} = .ok p ∧
    contacts ⟨{}, {}⟩ p none false [[none, some "1", none, none, some "\x1d"]] = .ok [c] ∧
    c.details.map (fun x => (x.name, x.isEmpty)) = [("Hobby", true)] :=
  ⟨_, _, rfl, rfl, by decide +kernel⟩

end Result

end ContactGraph
