import ContactGraph.Proofs.Contact.Basic
import ContactGraph.Proofs.Contact.Detail
import ContactGraph.Proofs.Query.Partition
import ContactGraph.Proofs.Result.Instances
import ContactGraph.Proofs.Result.Rows

/-!
# Where details come from

The details of a contact are those that its rows tell : in each row the columns of a binding tell
some (`detailsOf`), and one column tells free details (`freeDetailsOf`). A detail of a binding is
made of parts, whether these are the columns of a unique detail or stand packed in one cell; then it
is given its sub-type, and what is drawn from its graphs and its affiliation leaves its values alone
(`exists_isMadeOf`). So what holds of all that rows tell holds of all details of a contact
(`isTold_of_mem_contacts`).
-/

namespace ContactGraph

open Query

/-! ## Parts of instances -/

namespace Query

/-- What the column of a unique detail holds. -/
def Slot.token (s : Slot) : Token :=
  if s.custom then .custom s.field else .value s.field

namespace Layout

/-- The parts of the instances in a row. The columns of a unique detail are the parts of one. -/
def partsIn (row : Row) : Layout → List (List (Token × String))
  | .unique l => [l.slots.map fun s => (s.token, row.text s.column)]
  | .multi l => (Packed.detailItems (row.text l.main)).map fun item =>
      l.tokens.zip (Packed.fields item)

/-- The field for the sub-type. -/
def subTypeField : Layout → Option Nat
  | .unique l => l.subTypeField
  | .multi l => l.subTypeField

/-- The sub-types that have a column. -/
def subTypeLabels : Layout → List String
  | .unique l => l.subTypeColumns.map (·.label)
  | .multi l => l.subTypeColumns.map (·.label)

end Layout

end Query

namespace Result

variable {frame : Frame} {d : DetailDefinition} {row : Row} {b : Query.Binding} {x : Detail}
  {draft : Draft} {p : Token × String} {parts : List (Token × String)} {field : String} {v : Value}

/-- A part of an instance sets a field of a detail to a value. Free properties are added to a list,
and make the value of a field without one. -/
inductive Sets (frame : Frame) (d : DetailDefinition) (x : Detail) :
    Token × String → Nat → Value → Prop
  /-- A typed value. -/
  | value {i : Nat} {text : String} {v : Value}
      (h : fieldValue frame.ids (d.fieldAt i) (splitOwned d text).1 = some v) :
      Sets frame d x (.value i, text) i v
  /-- Free properties behind those that are there. -/
  | added {i : Nat} {text : String} {there : List String} (hitems : Packed.listItems text ≠ [])
      (h : x.value? (d.fieldAt i).name = some (.list there)) :
      Sets frame d x (.custom i, text) i (.list (there ++ Packed.listItems text))
  /-- Free properties alone. -/
  | custom {i : Nat} {text : String} {v : Value} (hitems : Packed.listItems text ≠ [])
      (h : (d.fieldAt i).type.coerce (.list (Packed.listItems text)) = .ok v) :
      Sets frame d x (.custom i, text) i v
  /-- The sub-types of classes. -/
  | classes {i : Nat} {text : String} {v : Value}
      (h : classValue frame.ids (d.fieldAt i) text = some v) :
      Sets frame d x (.classes i, text) i v

theorem addCustom?_eq_some {f : FieldDefinition} {raw : String} {y : Detail}
    (h : addCustom? x f raw = some y) : Packed.listItems raw ≠ [] ∧
      ((∃ there, x.value? f.name = some (.list there) ∧
          y = x.set f.name (.list (there ++ Packed.listItems raw))) ∨
        ∃ v, f.type.coerce (.list (Packed.listItems raw)) = .ok v ∧ y = x.set f.name v) := by
  unfold addCustom? at h
  split at h
  · cases h
  · rename_i items hne
    refine ⟨hne, ?_⟩
    split at h
    · rename_i there hthere
      exact .inl ⟨there, hthere, (Option.some.inj h).symm⟩
    · cases h
    · split at h
      · rename_i v hv
        exact .inr ⟨v, hv, (Option.some.inj h).symm⟩
      · cases h

theorem setIfSome_content (x : Detail) (field : String) (value : Option Value) :
    (setIfSome x field value).name = x.name ∧ ((setIfSome x field value).values = x.values ∨
      ∃ v, value = some v ∧ (setIfSome x field value).values = (x.set field v).values) := by
  cases value with
  | none => exact ⟨rfl, .inl rfl⟩
  | some v => exact ⟨rfl, .inr ⟨v, rfl, rfl⟩⟩

/-- A part sets a field or leaves all fields as they are. -/
theorem withPart_content (frame : Frame) (d : DetailDefinition) (draft : Draft)
    (p : Token × String) : (withPart frame d draft p).detail.name = draft.detail.name ∧
      ((withPart frame d draft p).detail.values = draft.detail.values ∨
        ∃ i v, Sets frame d draft.detail p i v ∧
          (withPart frame d draft p).detail.values =
            (draft.detail.set (d.fieldAt i).name v).values) := by
  obtain ⟨token, text⟩ := p
  cases token with
  | uri => by_cases h : text = "" <;> simp [withPart, h]
  | value i =>
    obtain ⟨hname, hvalues⟩ := setIfSome_content draft.detail (d.fieldAt i).name
      (fieldValue frame.ids (d.fieldAt i) (splitOwned d text).1)
    refine ⟨hname, hvalues.imp id ?_⟩
    rintro ⟨v, hv, hset⟩
    exact ⟨i, v, .value hv, hset⟩
  | custom i =>
    have hdetail : (withPart frame d draft (.custom i, text)).detail =
        (addCustom? draft.detail (d.fieldAt i) text).getD draft.detail := rfl
    rw [hdetail]
    cases h : addCustom? draft.detail (d.fieldAt i) text with
    | none => exact ⟨rfl, .inl rfl⟩
    | some y =>
      obtain ⟨hitems, ⟨there, hthere, rfl⟩ | ⟨v, hv, rfl⟩⟩ := addCustom?_eq_some h
      · exact ⟨rfl, .inr ⟨i, _, .added hitems hthere, rfl⟩⟩
      · exact ⟨rfl, .inr ⟨i, v, .custom hitems hv, rfl⟩⟩
  | classes i =>
    obtain ⟨hname, hvalues⟩ := setIfSome_content draft.detail (d.fieldAt i).name
      (classValue frame.ids (d.fieldAt i) text)
    refine ⟨hname, hvalues.imp id ?_⟩
    rintro ⟨v, hv, hset⟩
    exact ⟨i, v, .classes hv, hset⟩

/-- A value of a draft was there before the last part or was set by it. -/
theorem value?_withPart (h : (withPart frame d draft p).detail.value? field = some v) :
    draft.detail.value? field = some v ∨
      ∃ i, (d.fieldAt i).name = field ∧ Sets frame d draft.detail p i v := by
  obtain ⟨-, hsame | ⟨i, w, hsets, hset⟩⟩ := withPart_content frame d draft p
  · exact .inl (by rwa [Detail.value?_congr hsame] at h)
  · rw [Detail.value?_congr hset, Detail.value?_set] at h
    split at h
    · rename_i hfield
      cases h
      exact .inr ⟨i, hfield.symm, hsets⟩
    · exact .inl h

/-- A field that has a value keeps having one. -/
theorem value?_withPart_isSome (h : (draft.detail.value? field).isSome) :
    ((withPart frame d draft p).detail.value? field).isSome := by
  obtain ⟨-, hsame | ⟨i, w, hsets, hset⟩⟩ := withPart_content frame d draft p
  · rwa [Detail.value?_congr hsame]
  · rw [Detail.value?_congr hset, Detail.value?_set]
    split
    · rfl
    · exact h

/-! ## Drafts -/

/-- The draft made of the parts of an instance. -/
def draftOf (frame : Frame) (d : DetailDefinition) (parts : List (Token × String)) : Draft :=
  parts.foldl (withPart frame d) ⟨{ name := d.name }, []⟩

theorem draftOf_name (parts : List (Token × String)) :
    (draftOf frame d parts).detail.name = d.name :=
  List.foldlRecOn (motive := fun draft : Draft => draft.detail.name = d.name) parts _ rfl
    fun draft h p _ => (withPart_content frame d draft p).1.trans h

/-- All values of a draft are as they should be when each part only sets such values. -/
theorem forall_value?_draftOf {P : String → Value → Prop}
    (hsets : ∀ x : Detail, (∀ field v, x.value? field = some v → P field v) →
      ∀ p ∈ parts, ∀ i v, Sets frame d x p i v → P (d.fieldAt i).name v) :
    ∀ field v, (draftOf frame d parts).detail.value? field = some v → P field v := by
  refine List.foldlRecOn (motive := fun draft : Draft =>
    ∀ field v, draft.detail.value? field = some v → P field v) parts _
    (fun _ _ hv => absurd hv (by simp [Detail.value?])) ?_
  intro draft hdraft p hp field v hv
  rcases value?_withPart hv with hv | ⟨i, rfl, hset⟩
  · exact hdraft field v hv
  · exact hsets draft.detail hdraft p hp i v hset

/-- The instance of several parts is their draft, and one of them set a value. -/
theorem instanceOf_eq_some_iff : instanceOf frame d parts = some draft ↔
    anySetsValue frame d ⟨{ name := d.name }, []⟩ parts = true ∧ draftOf frame d parts = draft := by
  unfold instanceOf draftOf
  simp

/-- A detail with its sub-type, when there is a field for it. -/
def withSubType (d : DetailDefinition) (subTypeField : Option Nat) (labels : List String)
    (x : Detail) : Detail :=
  match subTypeField with
  | none => x
  | some i => setIfSome x (d.fieldAt i).name (subTypeValue (d.fieldAt i) labels)

theorem withSubType_name (subTypeField : Option Nat) (labels : List String) (x : Detail) :
    (withSubType d subTypeField labels x).name = x.name := by
  cases subTypeField with
  | none => rfl
  | some i => exact (setIfSome_content x _ _).1

/-- A value of a detail was there before the sub-type or is the sub-type. -/
theorem value?_withSubType {subTypeField : Option Nat} {labels : List String}
    (h : (withSubType d subTypeField labels x).value? field = some v) :
    x.value? field = some v ∨ ∃ i, subTypeField = some i ∧ (d.fieldAt i).name = field ∧
      subTypeValue (d.fieldAt i) labels = some v := by
  cases subTypeField with
  | none => exact .inl h
  | some i =>
    obtain ⟨-, hsame | ⟨w, hw, hset⟩⟩ :=
      setIfSome_content x (d.fieldAt i).name (subTypeValue (d.fieldAt i) labels)
    · rw [withSubType, Detail.value?_congr hsame] at h
      exact .inl h
    · rw [withSubType, Detail.value?_congr hset, Detail.value?_set] at h
      split at h
      · rename_i hfield
        cases h
        exact .inr ⟨i, rfl, hfield.symm, hw⟩
      · exact .inl h

/-- Other fields than that of the sub-type keep their values. -/
theorem value?_withSubType_of_ne {subTypeField : Option Nat} (labels : List String)
    (h : ∀ i, subTypeField = some i → (d.fieldAt i).name ≠ field) :
    (withSubType d subTypeField labels x).value? field = x.value? field := by
  cases subTypeField with
  | none => rfl
  | some i =>
    obtain ⟨-, hsame | ⟨w, -, hset⟩⟩ :=
      setIfSome_content x (d.fieldAt i).name (subTypeValue (d.fieldAt i) labels)
    · rw [withSubType, Detail.value?_congr hsame]
    · rw [withSubType, Detail.value?_congr hset, Detail.value?_set, if_neg (h i rfl).symm]

/-! ## What follows from graphs and affiliations -/

theorem markGraph_content (settings : Settings) (x : Detail) (graph : String) :
    (markGraph settings x graph).name = x.name ∧
      (markGraph settings x graph).values = x.values := by
  unfold markGraph
  dsimp only
  split <;> split <;> exact ⟨rfl, rfl⟩

theorem giveScheme_content (x : Detail) (scheme : Option String) :
    (giveScheme x scheme).name = x.name ∧ (giveScheme x scheme).values = x.values := by
  unfold giveScheme
  split
  · exact ⟨rfl, rfl⟩
  · split
    · exact ⟨rfl, rfl⟩
    · split <;> exact ⟨rfl, rfl⟩

theorem giveContext_content (d : DetailDefinition) (label : String) (x : Detail) :
    (giveContext d label x).name = x.name ∧ (giveContext d label x).values = x.values := by
  unfold giveContext
  split <;> exact ⟨rfl, rfl⟩

/-- What follows from where a detail comes from leaves its name and its values alone. -/
theorem finish_content (frame : Frame) (d : DetailDefinition) (affiliation : Affiliation)
    (draft : Draft) : (finish frame d affiliation draft).name = draft.detail.name ∧
      (finish frame d affiliation draft).values = draft.detail.values := by
  have hmarked := List.foldlRecOn
    (motive := fun x : Detail => x.name = draft.detail.name ∧ x.values = draft.detail.values)
    draft.graphs (markGraph frame.settings) ⟨rfl, rfl⟩ fun x hx graph _ =>
      have hmark := markGraph_content frame.settings x graph
      ⟨hmark.1.trans hx.1, hmark.2.trans hx.2⟩
  have hscheme := giveScheme_content (draft.graphs.foldl (markGraph frame.settings) draft.detail)
    d.uriScheme
  have hcontext := giveContext_content d affiliation.label
    (giveScheme (draft.graphs.foldl (markGraph frame.settings) draft.detail) d.uriScheme)
  exact ⟨hcontext.1.trans (hscheme.1.trans hmarked.1), hcontext.2.trans (hscheme.2.trans hmarked.2)⟩

/-! ## Details of a row -/

/-- A detail has the values of its parts and of its sub-type. Of a unique detail the parts have
something in them, and of another one they set a value. -/
structure IsMadeOf (frame : Frame) (b : Query.Binding) (parts : List (Token × String))
    (x : Detail) : Prop where
  /-- It is called what its definition says. -/
  name_eq : x.name = b.detail.name
  /-- Its values are those of the parts and of the sub-type. -/
  values_eq : ∃ labels ⊆ b.layout.subTypeLabels,
    x.values = (withSubType b.detail b.layout.subTypeField labels
      (draftOf frame b.detail parts).detail).values
  /-- There is something in the parts of a unique detail. -/
  unique : ∀ l, b.layout = .unique l → (draftOf frame b.detail parts).detail.isEmpty = false
  /-- Some part of a detail that can be many sets a value. -/
  multi : ∀ l, b.layout = .multi l →
    anySetsValue frame b.detail ⟨{ name := b.detail.name }, []⟩ parts = true

theorem readSlot_eq (draft : Draft) (slot : Slot) :
    readSlot frame d row draft slot =
      withPart frame d draft (slot.token, row.text slot.column) := by
  unfold readSlot Slot.token
  split <;> rfl

theorem foldl_readSlot (row : Row) (slots : List Slot) :
    slots.foldl (readSlot frame d row) ⟨{ name := d.name }, []⟩ =
      draftOf frame d (slots.map fun s => (s.token, row.text s.column)) := by
  have hslot : readSlot frame d row = fun draft slot =>
      withPart frame d draft (slot.token, row.text slot.column) := by
    funext draft slot
    exact readSlot_eq draft slot
  rw [draftOf, List.foldl_map, hslot]

theorem readUnique_eq (frame : Frame) (d : DetailDefinition) (l : UniqueLayout) (row : Row)
    (affiliation : Affiliation) : readUnique frame d l row affiliation =
      let draft := draftOf frame d (l.slots.map fun s => (s.token, row.text s.column))
      if draft.detail.isEmpty then none
      else some (finish frame d affiliation ⟨
        { withSubType d l.subTypeField (presentLabels row l.subTypeColumns) draft.detail with
          uri := uriOf row affiliation l.uri }, draft.graphs⟩) := by
  rw [readUnique, foldl_readSlot]
  cases l.subTypeField <;> rfl

/-- The instances in the column of each sub-type. -/
def bySubType (frame : Frame) (d : DetailDefinition) (l : MultiLayout) (row : Row) :
    List (String × List Detail) :=
  l.subTypeColumns.map fun c =>
    (c.label, (readItems frame d l.tokens (row.text c.column)).map (·.detail))

theorem readMulti_eq (frame : Frame) (d : DetailDefinition) (l : MultiLayout) (row : Row)
    (affiliation : Affiliation) : readMulti frame d l row affiliation =
      (readItems frame d l.tokens (row.text l.main)).map fun draft =>
        finish frame d affiliation ⟨
          withSubType d l.subTypeField (matchingLabels (bySubType frame d l row) draft.detail)
            draft.detail, draft.graphs⟩ := by
  rw [readMulti]
  cases l.subTypeField <;> rfl

theorem presentLabels_subset (row : Row) (columns : List SubTypeColumn) :
    presentLabels row columns ⊆ columns.map (·.label) :=
  List.map_subset _ (List.filter_subset_self _)

theorem matchingLabels_subset (l : MultiLayout) (row : Row) (x : Detail) :
    matchingLabels (bySubType frame d l row) x ⊆ l.subTypeColumns.map (·.label) := by
  have hlabels : (bySubType frame d l row).map (·.1) = l.subTypeColumns.map (·.label) :=
    List.map_map
  rw [← hlabels]
  exact List.map_subset _ (List.filter_subset_self _)

/-- What a row tells of a unique detail is made of its columns. -/
theorem isMadeOf_readUnique {l : UniqueLayout} {affiliation : Affiliation}
    (hl : b.layout = .unique l) (h : readUnique frame b.detail l row affiliation = some x) :
    ∃ parts ∈ b.layout.partsIn row, IsMadeOf frame b parts x := by
  refine ⟨_, by rw [hl]; exact List.mem_singleton_self _, ?_⟩
  rw [readUnique_eq] at h
  dsimp only at h
  split at h
  · cases h
  · rename_i hne
    cases h
    obtain ⟨hname, hvalues⟩ := finish_content frame b.detail affiliation _
    refine ⟨hname.trans ((withSubType_name _ _ _).trans (draftOf_name _)),
      ⟨presentLabels row l.subTypeColumns, ?_, ?_⟩, fun _ _ => Bool.eq_false_iff.mpr hne, ?_⟩
    · rw [hl]
      exact presentLabels_subset row l.subTypeColumns
    · rw [hvalues, hl]
      rfl
    · rw [hl]
      exact nofun

/-- Every instance that a row tells of is made of its parts. -/
theorem isMadeOf_readMulti {l : MultiLayout} {affiliation : Affiliation}
    (hl : b.layout = .multi l) (h : x ∈ readMulti frame b.detail l row affiliation) :
    ∃ parts ∈ b.layout.partsIn row, IsMadeOf frame b parts x := by
  rw [readMulti_eq] at h
  obtain ⟨draft, hdraft, rfl⟩ := List.mem_map.mp h
  obtain ⟨item, hitem, hread⟩ := List.mem_filterMap.mp hdraft
  rw [readItem_eq, instanceOf_eq_some_iff] at hread
  obtain ⟨hsets, rfl⟩ := hread
  refine ⟨_, by rw [hl]; exact List.mem_map_of_mem hitem, ?_⟩
  obtain ⟨hname, hvalues⟩ := finish_content frame b.detail affiliation _
  refine ⟨hname.trans ((withSubType_name _ _ _).trans (draftOf_name _)),
    ⟨matchingLabels (bySubType frame b.detail l row)
      (draftOf frame b.detail (l.tokens.zip (Packed.fields item))).detail, ?_, ?_⟩, ?_,
    fun _ _ => hsets⟩
  · rw [hl]
    exact matchingLabels_subset l row _
  · rw [hvalues, hl]
    rfl
  · rw [hl]
    exact nofun

/-- The details that the columns of a binding tell. -/
def detailsOf (frame : Frame) (row : Row) (b : Query.Binding) : List Detail :=
  if row.length < b.last then []
  else if b.detail.hasContext && (affiliationOf row).iri.isNone then []
  else
    match b.layout with
    | .unique l => (readUnique frame b.detail l row (affiliationOf row)).toList
    | .multi l => readMulti frame b.detail l row (affiliationOf row)

/-- The free details that a row tells. -/
def freeDetailsOf (frame : Frame) (plan : Plan) (row : Row) : List Detail :=
  match plan.customColumn with
  | some column => readCustoms frame.settings (row.text column)
  | none => []

/-- Every detail that the columns of a binding tell is made of the parts of an instance. -/
theorem exists_isMadeOf (h : x ∈ detailsOf frame row b) :
    ∃ parts ∈ b.layout.partsIn row, IsMadeOf frame b parts x := by
  unfold detailsOf at h
  split at h
  · cases h
  · split at h
    · cases h
    · split at h
      · rename_i l hl
        exact isMadeOf_readUnique hl (Option.mem_toList.mp h)
      · rename_i l hl
        exact isMadeOf_readMulti hl h

/-! ## Details of contacts -/

/-- Saves a detail the way its layout asks for. A unique detail that contradicts the one that is
there is not saved. -/
def saveBy : Layout → Contact → Detail → Contact
  | .unique _, c, x => (c.saveUnique x).toOption.getD c
  | .multi _, c, x => c.save x

theorem addBinding_eq (frame : Frame) (row : Row) (c : Contact) (b : Query.Binding) :
    addBinding frame row c b = (detailsOf frame row b).foldl (saveBy b.layout) c := by
  unfold addBinding detailsOf
  dsimp only
  split
  · rfl
  · split
    · rfl
    · cases b.layout with
      | unique l =>
        dsimp only
        cases readUnique frame b.detail l row (affiliationOf row) <;> rfl
      | multi l => rfl

/-- What goes on holding with each detail that the bindings tell holds with all of them. -/
theorem foldl_addBinding_induction {bindings : List Query.Binding} {P : Contact → Prop}
    {c : Contact} (hc : P c)
    (hsave : ∀ b ∈ bindings, ∀ x ∈ detailsOf frame row b, ∀ c, P c → P (saveBy b.layout c x)) :
    P (bindings.foldl (addBinding frame row) c) := by
  refine List.foldlRecOn _ _ hc fun c hc b hb => ?_
  rw [addBinding_eq]
  exact List.foldlRecOn _ _ hc fun c hc x hx => hsave b hb x hx c hc

theorem addRelationships_details (row : Row) (columns : RelationshipColumns) (c : Contact) :
    (addRelationships row columns c).details = c.details :=
  List.foldlRecOn (motive := fun c' : Contact => c'.details = c.details) _ _ rfl
    fun c' hc' r _ => by
      rw [← hc', Contact.relate]
      split <;> rfl

/-- A row adds the details of the bindings, and behind them the free details. -/
theorem addRow_details (frame : Frame) (plan : Plan) (row : Row) (c : Contact) :
    (addRow frame plan row c).details =
      (plan.bindings.foldl (addBinding frame row) c).details ++ freeDetailsOf frame plan row := by
  unfold addRow freeDetailsOf
  cases plan.relationships with
  | none =>
    cases plan.customColumn with
    | none => exact (List.append_nil _).symm
    | some column => exact congrArg Contact.details (Contact.foldl_save _ _)
  | some columns =>
    dsimp only
    rw [addRelationships_details]
    cases plan.customColumn with
    | none => exact (List.append_nil _).symm
    | some column => exact congrArg Contact.details (Contact.foldl_save _ _)

theorem saveBy_details (layout : Layout) (c : Contact) (x : Detail) :
    (saveBy layout c x).details = c.details ∨ (saveBy layout c x).details = c.details ++ [x] := by
  cases layout with
  | unique l =>
    rw [saveBy, Contact.getD_saveUnique]
    split
    · exact .inl rfl
    · exact .inr rfl
  | multi l => exact .inr rfl

/-- Some row tells the detail, in the columns of a binding or as a free detail. -/
def IsTold (frame : Frame) (plan : Plan) (rows : Table) (x : Detail) : Prop :=
  ∃ row ∈ rows,
    (∃ b ∈ plan.bindings, x ∈ detailsOf frame row b) ∨ x ∈ freeDetailsOf frame plan row

theorem isTold_addRow {plan : Plan} {rows : Table} {c : Contact} (hrow : row ∈ rows)
    (hc : ∀ x ∈ c.details, IsTold frame plan rows x) :
    ∀ x ∈ (addRow frame plan row c).details, IsTold frame plan rows x := by
  have hbound : ∀ x ∈ (plan.bindings.foldl (addBinding frame row) c).details,
      IsTold frame plan rows x := by
    refine foldl_addBinding_induction (P := fun c => ∀ x ∈ c.details, IsTold frame plan rows x) hc
      fun b hb y hy c hc => ?_
    rcases saveBy_details b.layout c y with heq | heq
    · rwa [heq]
    · rw [heq, List.forall_mem_append, List.forall_mem_singleton]
      exact ⟨hc, row, hrow, .inl ⟨b, hb, hy⟩⟩
  rw [addRow_details, List.forall_mem_append]
  exact ⟨hbound, fun x hx => ⟨row, hrow, .inr hx⟩⟩

/-- Every detail of a contact is told by one of its rows. -/
theorem isTold_of_mem_contacts {plan : Plan} {table : Table} {limit : Option Nat}
    {canceled : Bool} {cs : List Contact} {c : Contact}
    (h : contacts frame plan limit canceled table = .ok cs) (hc : c ∈ cs) (hx : x ∈ c.details) :
    IsTold frame plan (rowsOf c.localId table) x := by
  obtain ⟨rows, hrows, heq⟩ := exists_rows_of_mem_contacts h hc
  have htold := List.foldlRecOn
    (motive := fun c' : Contact => ∀ y ∈ c'.details, IsTold frame plan (rowsOf c.localId table) y)
    rows (fun c' row => addRow frame plan row c') (b := { id := ⟨plan.schema.type, c.localId⟩ })
    (by simp) fun c' hc' row hrow => isTold_addRow (hrows.subset hrow) hc'
  rw [heq] at hx
  exact htold x hx

end Result

end ContactGraph
