import ContactGraph.Proofs.Contact.Equality
import ContactGraph.Proofs.Result.Types
import ContactGraph.Schema.Standard

/-!
# Labels of sub-types

Where sub-types are kept by property, the instances of a detail stand in one column, and again in
the columns of their sub-types. Only the first says which instances there are : the others just
label them (`readMulti_labelled`). An instance has the label of a column when it stands there as
well, as it is before anything is drawn from its graphs and its affiliation (`labelsOf`), and the
labels make the value of the field (`IsLabelled`). So the order and the number of the items of a
sub-type say nothing, nor do items that are not in the main column (`RelabelsAlike`).
-/

namespace ContactGraph

open Query

namespace FieldDefinition

/-- What labels make of a detail : a field for lists has them all, another one the first. Without
labels the field has its default, or an empty list, or stays as it is. -/
inductive IsLabelled (f : FieldDefinition) (x : Detail) : List String → Detail → Prop
  /-- All labels. -/
  | all {label : String} {labels : List String} (htype : f.type = .list) :
      IsLabelled f x (label :: labels) (x.set f.name (.list (label :: labels)))
  /-- The first label. -/
  | first {label : String} {labels : List String} (htype : f.type ≠ .list) :
      IsLabelled f x (label :: labels) (x.set f.name (.text label))
  /-- The default. -/
  | default {v : Value} (hdefault : f.default = some v) : IsLabelled f x [] (x.set f.name v)
  /-- An empty list. -/
  | empty (hdefault : f.default = none) (htype : f.type = .list) :
      IsLabelled f x [] (x.set f.name (.list []))
  /-- No value. -/
  | unset (hdefault : f.default = none) (htype : f.type ≠ .list) : IsLabelled f x [] x

end FieldDefinition

namespace Result

variable {frame : Frame} {d : DetailDefinition} {l : MultiLayout} {row row' : Row}
  {b : Query.Binding} {x : Detail} {i : Nat} {types : List Labelled} {parts : List (Token × String)}
  {draft : Draft} {tokens : List Token} {raw : String}

open Classical in
/-- The labels of the columns in which an instance stands, in the order of the columns. -/
noncomputable def labelsOf (frame : Frame) (d : DetailDefinition) (l : MultiLayout) (row : Row)
    (x : Detail) : List String :=
  (l.subTypeColumns.filter fun c =>
    ∃ other ∈ readItems frame d l.tokens (row.text c.column), other.detail = x).map (·.label)

/-- The second row has in the columns of sub-types the items of the first, in any order and any
number, and none besides that makes an instance of the main column, which is the same. -/
structure RelabelsAlike (frame : Frame) (d : DetailDefinition) (l : MultiLayout)
    (row row' : Row) : Prop where
  /-- The instances are the same. -/
  main : row'.text l.main = row.text l.main
  /-- No item of a sub-type is left out. -/
  kept : ∀ c ∈ l.subTypeColumns,
    Packed.detailItems (row.text c.column) ⊆ Packed.detailItems (row'.text c.column)
  /-- An item that is added to a sub-type is none of the instances. -/
  added : ∀ c ∈ l.subTypeColumns, ∀ item ∈ Packed.detailItems (row'.text c.column),
    item ∈ Packed.detailItems (row.text c.column) ∨
      ∀ other, readItem frame d l.tokens item = some other →
        ∀ draft ∈ readItems frame d l.tokens (row.text l.main), other.detail ≠ draft.detail

/-! ## Labels -/

theorem isLabelled_setIfSome (f : FieldDefinition) (x : Detail) (labels : List String) :
    f.IsLabelled x labels (setIfSome x f.name (subTypeValue f labels)) := by
  cases labels with
  | nil =>
    cases hdefault : f.default with
    | some v => simpa [subTypeValue, hdefault, setIfSome] using .default hdefault
    | none =>
      by_cases htype : f.type = .list
      · simpa [subTypeValue, hdefault, htype, setIfSome] using .empty hdefault htype
      · have hvalue : subTypeValue f [] = none := by
          unfold subTypeValue
          rw [hdefault]
          split <;> simp_all
        rw [hvalue]
        exact .unset hdefault htype
  | cons label labels =>
    by_cases htype : f.type = .list
    · simpa [subTypeValue, labelsValue, htype, setIfSome] using .all htype
    · have hvalue : subTypeValue f (label :: labels) = some (.text label) := by
        unfold subTypeValue labelsValue
        dsimp only
        split
        · contradiction
        · rfl
      rw [hvalue]
      exact .first htype

theorem mem_readItems_iff : draft ∈ readItems frame d tokens raw ↔
    ∃ item ∈ Packed.detailItems raw, readItem frame d tokens item = some draft :=
  List.mem_filterMap

/-- What is read has no doubles when no field has. -/
theorem type_of_mem_readItems (hfields : ∀ f ∈ d.fields, f.IsDoubleFree)
    (h : draft ∈ readItems frame d tokens raw) :
    ∀ field v, draft.detail.value? field = some v → v.type ≠ .double := by
  intro field v hv
  obtain ⟨item, -, hitem⟩ := mem_readItems_iff.mp h
  rw [readItem_eq, instanceOf_eq_some_iff] at hitem
  obtain ⟨-, rfl⟩ := hitem
  obtain ⟨i, -, hmay⟩ := mayHave_of_value?_draftOf hv
  have hfield : (d.fieldAt i).IsDoubleFree :=
    DetailDefinition.forall_fieldAt hfields isDoubleFree_default i
  exact hfield.type_ne_of_mayHave hmay

/-- Labels stand where the instances are, when no field has doubles. -/
theorem matchingLabels_eq (hfields : ∀ f ∈ d.fields, f.IsDoubleFree) (x : Detail) :
    matchingLabels (bySubType frame d l row) x = labelsOf frame d l row x := by
  rw [matchingLabels, bySubType, List.filter_map, List.map_map, labelsOf]
  congr 1
  refine List.filter_congr fun c _ => ?_
  rw [Bool.eq_iff_iff]
  simp only [Function.comp, List.any_map, List.any_eq_true, decide_eq_true_eq]
  refine exists_congr fun other => and_congr_right fun hother => ?_
  have htypes := type_of_mem_readItems hfields hother
  constructor
  · exact Detail.eq_of_beq htypes
  · rintro rfl
    exact Detail.beq_self fun field v hv => Value.beq_self (htypes field v hv)

/-- Items that do not matter change no label of an instance. -/
theorem RelabelsAlike.labelsOf_eq (h : RelabelsAlike frame d l row row')
    (hdraft : draft ∈ readItems frame d l.tokens (row.text l.main)) :
    labelsOf frame d l row' draft.detail = labelsOf frame d l row draft.detail := by
  rw [labelsOf, labelsOf]
  congr 1
  refine List.filter_congr fun c hc => ?_
  rw [decide_eq_decide]
  constructor
  · rintro ⟨other, hother, heq⟩
    obtain ⟨item, hitem, hread⟩ := mem_readItems_iff.mp hother
    rcases h.added c hc item hitem with hthere | hnone
    · exact ⟨other, mem_readItems_iff.mpr ⟨item, hthere, hread⟩, heq⟩
    · exact absurd heq (hnone other hread draft hdraft)
  · rintro ⟨other, hother, heq⟩
    obtain ⟨item, hitem, hread⟩ := mem_readItems_iff.mp hother
    exact ⟨other, mem_readItems_iff.mpr ⟨item, h.kept c hc hitem, hread⟩, heq⟩

/-! ## Fields for sub-types -/

/-- A part sets a field that its token reads. -/
theorem Sets.exists_role {p : Token × String} {v : Value} (h : Sets frame d x p i v) :
    ∃ r, p.1.role? i = some r := by
  cases h with
  | value => exact ⟨.value, if_pos rfl⟩
  | added => exact ⟨.custom, if_pos rfl⟩
  | custom => exact ⟨.custom, if_pos rfl⟩
  | classes => exact ⟨.classes, if_pos rfl⟩

/-- An instance has no value in the field for the sub-type before it is labelled. -/
theorem value?_subTypeField {s : Scope} {request : Request} {p : Plan}
    (hplan : plan s request = .ok p) (hb : b ∈ p.bindings) (hnames : b.detail.HasOwnNames)
    (hi : b.layout.subTypeField = some i) (hparts : parts ∈ b.layout.partsIn row) :
    (draftOf frame b.detail parts).detail.value? (b.detail.fieldAt i).name = none := by
  obtain ⟨hmem, hproperty, -⟩ := subTypes_of_mem_bindings hplan hb hi
  have hfits : b.Fits := (isPartition_of_plan hplan).fits b hb
  have hother : ∀ field v, (draftOf frame b.detail parts).detail.value? field = some v →
      field ≠ (b.detail.fieldAt i).name := by
    refine forall_value?_draftOf (P := fun field _ => field ≠ (b.detail.fieldAt i).name) ?_
    rintro x - ⟨token, text⟩ hp j v hsets hname
    -- no part is about a field for sub-types
    obtain ⟨r, hr⟩ := hsets.exists_role
    obtain ⟨hfield, hrole⟩ := hfits.role_of_mem_partsIn hparts hp hr
    rw [hnames.eq_of_name_eq hfield hmem hname, rolesOf_byProperty _ hproperty] at hrole
    exact List.not_mem_nil hrole
  exact Option.eq_none_iff_forall_ne_some.mpr fun v hv => hother _ v hv rfl

/-- Sub-types that are kept by property have their columns behind the one of the instances. -/
theorem subTypeColumns_of_mem_bindings {s : Scope} {request : Request} {p : Plan}
    (hplan : plan s request = .ok p) (hb : b ∈ p.bindings) (hlayout : b.layout = .multi l)
    (htypes : b.detail.propertySubTypes = some (i, types)) :
    l.subTypeField = some i ∧ l.subTypeColumns = subTypeColumns (l.main + 1) types := by
  obtain ⟨-, k, hcolumns⟩ := layout_of_mem_bindings hplan hb
  rw [hlayout] at hcolumns
  unfold detailColumns at hcolumns
  split at hcolumns
  · cases hcolumns
  · obtain ⟨main, subTypes, heq, -⟩ := multiColumns_eq b.detail b.first k
    have hl : l = (multiColumns b.detail b.first k).1.2 := Layout.multi.inj hcolumns
    rw [hl, heq, propertyTypes, htypes]
    exact ⟨rfl, rfl⟩

/-- Columns of sub-types label instances, and neither bring nor drop any. The instances of a detail
are the items of its main column, one for each and in the same order, and each has the labels of
just the columns in which it stands as well; the items there may come in any order and any number,
and others beside them. -/
theorem readMulti_labelled {s : Scope} {request : Request} {p : Plan}
    (hplan : plan s request = .ok p) (hb : b ∈ p.bindings) (hlayout : b.layout = .multi l)
    (htypes : b.detail.propertySubTypes = some (i, types))
    (hfields : ∀ f ∈ b.detail.fields, f.IsDoubleFree) (frame : Frame) (row : Row)
    (affiliation : Affiliation) :
    l.subTypeColumns = subTypeColumns (l.main + 1) types ∧
      List.Forall₂ (fun draft x => ∃ y,
          (b.detail.fieldAt i).IsLabelled draft.detail
            (labelsOf frame b.detail l row draft.detail) y ∧
          x = finish frame b.detail affiliation ⟨y, draft.graphs⟩ ∧
          (b.detail.HasOwnNames → draft.detail.value? (b.detail.fieldAt i).name = none))
        (readItems frame b.detail l.tokens (row.text l.main))
        (readMulti frame b.detail l row affiliation) ∧
      ∀ row', RelabelsAlike frame b.detail l row row' →
        readMulti frame b.detail l row' affiliation =
          readMulti frame b.detail l row affiliation := by
  obtain ⟨hfield, hcolumns⟩ := subTypeColumns_of_mem_bindings hplan hb hlayout htypes
  refine ⟨hcolumns, ?_, fun row' h => ?_⟩
  · rw [readMulti_eq, List.forall₂_map_right_iff, List.forall₂_same]
    intro draft hdraft
    rw [hfield, matchingLabels_eq hfields]
    refine ⟨_, isLabelled_setIfSome _ _ _, rfl, fun hnames => ?_⟩
    obtain ⟨item, hitem, hread⟩ := mem_readItems_iff.mp hdraft
    rw [readItem_eq, instanceOf_eq_some_iff] at hread
    obtain ⟨-, rfl⟩ := hread
    have hi : b.layout.subTypeField = some i := by rw [hlayout]; exact hfield
    have hparts : l.tokens.zip (Packed.fields item) ∈ b.layout.partsIn row := by
      rw [hlayout]
      exact List.mem_map_of_mem hitem
    exact value?_subTypeField hplan hb hnames hi hparts
  · rw [readMulti_eq, readMulti_eq, h.main]
    refine List.map_congr_left fun draft hdraft => ?_
    rw [matchingLabels_eq hfields, matchingLabels_eq hfields, h.labelsOf_eq hdraft]

/-- Persons with web sites. -/
def urlScope : Scope :=
  { schema := { type := .person, details := [Standard.url] }, settings := {}, ids := {} }

/-- Three web sites, of which one is a home page and a blog, and one a blog alone. -/
def threeSites : Row := [none, some "1", none, none, some "a\x1eb\x1ec", some "a", some "b\x1ea"]

/-- The same, with a home page of somebody else, and with items in another order and repeated. -/
def threeSitesAgain : Row :=
  [none, some "1", none, none, some "a\x1eb\x1ec", some "z\x1ea\x1ea", some "a\x1eb"]

/-- The web site that is added is none of the three. -/
theorem relabelsAlike_threeSites : RelabelsAlike ⟨{}, {}⟩ Standard.url
    ⟨4, [.value 0], some 1, [⟨5, "HomePage"⟩, ⟨6, "Blog"⟩]⟩ threeSites threeSitesAgain where
  main := rfl
  kept := by decide
  added := by
    have htexts : (readItems ⟨{}, {}⟩ Standard.url [.value 0] "a\x1eb\x1ec").map
        (·.detail.text "Url") = ["a", "b", "c"] := rfl
    have hadded : ∀ item ∈ ["z", "a", "a"], item ∈ ["a"] ∨ item = "z" := by decide
    intro c hc item hitem
    rcases List.mem_cons.mp hc with rfl | hc
    · refine (hadded item hitem).imp id ?_
      rintro rfl other hother draft hdraft heq
      obtain rfl : _ = other := Option.some.inj hother
      have htext : draft.detail.text "Url" ∈ ["a", "b", "c"] :=
        htexts ▸ List.mem_map_of_mem hdraft
      rw [← heq] at htext
      exact absurd htext (by decide)
    · rw [List.mem_singleton.mp hc] at hitem ⊢
      exact .inl (by revert item; decide)

/-- Web sites have the first of their labels, and one without any has the default. -/
theorem readMulti_threeSites : ∃ p b l, plan urlScope {} = .ok p ∧ b ∈ p.bindings ∧
    b.layout = .multi l ∧
    (readMulti ⟨{}, {}⟩ b.detail l threeSites default).map
        (fun x => (x.text "Url", x.value? "SubType")) =
      [("a", some (.text "HomePage")), ("b", some (.text "Blog")),
        ("c", some (.text "Favourite"))] ∧
    readMulti ⟨{}, {}⟩ b.detail l threeSitesAgain default =
      readMulti ⟨{}, {}⟩ b.detail l threeSites default := by
  obtain ⟨p, b, l, hp, hb, hlayout, hdetail, hl, hvalues⟩ : ∃ p b l, plan urlScope {} = .ok p ∧
      b ∈ p.bindings ∧ b.layout = .multi l ∧ b.detail = Standard.url ∧
      l = ⟨4, [.value 0], some 1, [⟨5, "HomePage"⟩, ⟨6, "Blog"⟩]⟩ ∧
      (readMulti ⟨{}, {}⟩ b.detail l threeSites default).map
          (fun x => (x.text "Url", x.value? "SubType")) =
        [("a", some (.text "HomePage")), ("b", some (.text "Blog")),
          ("c", some (.text "Favourite"))] :=
    ⟨_, _, _, rfl, List.mem_singleton_self _, rfl, rfl, rfl, rfl⟩
  have htypes : b.detail.propertySubTypes =
      some (1, [⟨Vocabulary.Nco.websiteUrl, "HomePage"⟩, ⟨Vocabulary.Nco.blogUrl, "Blog"⟩]) := by
    rw [hdetail]
    rfl
  have hfields : ∀ f ∈ b.detail.fields, f.IsDoubleFree := by
    rw [hdetail]
    simp only [Standard.url, List.forall_mem_cons]
    exact ⟨⟨by simp [Standard.field], fun _ h => by cases h⟩,
      ⟨by simp, fun _ h => by cases h; simp [Value.type]⟩, fun _ h => by cases h⟩
  have hlabelled := readMulti_labelled hp hb hlayout htypes hfields ⟨{}, {}⟩ threeSites default
  refine ⟨p, b, l, hp, hb, hlayout, hvalues, hlabelled.2.2 threeSitesAgain ?_⟩
  rw [hdetail, hl]
  exact relabelsAlike_threeSites

end Result

end ContactGraph
