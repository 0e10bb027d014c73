import ContactGraph.Proofs.Filter.Leaves
import ContactGraph.Proofs.NameMap
import ContactGraph.Proofs.Number.Digits
import ContactGraph.Proofs.Reading.IdCache
import ContactGraph.Proofs.Result.Packed
import ContactGraph.Result.FieldText
import ContactGraph.Schema.Standard

/-!
# Instances in filters and in results

A filter takes the label of an instance to the resource and from there to the number that the store
knows it by; a result has the number and is read back to the resource and the label. When no two
resources of the cache share a number and no two instances of a field a resource, the numbers that a
filter on a label selects are just those that are read as this label (`exists_filtersAsRead`).
-/

namespace ContactGraph

/-! ## Filled caches -/

namespace IdCache

/-- The cache after insertions. -/
def filled (entries : List (Iri × LocalId)) : IdCache :=
  reached (entries.map fun e => .insert e.1 e.2)

variable {entries : List (Iri × LocalId)} {x : Iri} {n : LocalId}

theorem filled_concat (entries : List (Iri × LocalId)) (e : Iri × LocalId) :
    filled (entries ++ [e]) = (filled entries).insert e.1 e.2 := by
  simp [filled, reached, after]

/-- A resource that got one number has this number. -/
theorem id?_filled_iff (hiris : (entries.map (·.1)).Nodup) :
    (filled entries).id? x = some n ↔ (x, n) ∈ entries := by
  induction entries using List.reverseRecOn with
  | nil => exact iff_of_false nofun List.not_mem_nil
  | append_singleton entries e ih =>
    simp only [List.map_append, List.nodup_append, List.map_singleton, List.mem_singleton] at hiris
    obtain ⟨hiris, -, hfresh⟩ := hiris
    rw [filled_concat, id?_insert, List.mem_append, List.mem_singleton, Prod.ext_iff, ← ih hiris]
    split
    · rename_i hx
      have hnone : ¬ (filled entries).id? x = some n := fun h =>
        hfresh x (List.mem_map.mpr ⟨_, (ih hiris).mp h, rfl⟩) e.1 rfl hx
      simp [hx ▸ hnone, hx, eq_comm]
    · rename_i hx
      simp [hx]

/-- A number that one resource got stands for this resource. -/
theorem iri?_filled_iff (hiris : (entries.map (·.1)).Nodup) (hids : (entries.map (·.2)).Nodup) :
    (filled entries).iri? n = some x ↔ (x, n) ∈ entries := by
  induction entries using List.reverseRecOn with
  | nil => exact iff_of_false nofun List.not_mem_nil
  | append_singleton entries e ih =>
    simp only [List.map_append, List.nodup_append, List.map_singleton, List.mem_singleton]
      at hiris hids
    obtain ⟨hiris, -, hfresh⟩ := hiris
    obtain ⟨hids, -, hunused⟩ := hids
    -- the resource of the last insertion had no number before
    have hnone : ¬ (filled entries).id? e.1 = some n := fun h =>
      hfresh e.1 (List.mem_map.mpr ⟨_, (id?_filled_iff hiris).mp h, rfl⟩) e.1 rfl rfl
    rw [filled_concat, iri?_insert, if_neg hnone, List.mem_append, List.mem_singleton, Prod.ext_iff,
      ← ih hiris hids]
    split
    · rename_i hn
      have hother : ¬ (filled entries).iri? n = some x := fun h =>
        hunused n (List.mem_map.mpr ⟨_, (ih hiris hids).mp h, rfl⟩) e.2 rfl hn
      simp [hn ▸ hother, hn, eq_comm]
    · rename_i hn
      simp [hn]

end IdCache

/-! ## Values of instances -/

namespace FieldDefinition

variable {f : FieldDefinition} {i : Labelled}

/-- A text as a value of a field. -/
def textValue (f : FieldDefinition) (text : String) : Value :=
  match f.type with
  | .list => .list [text]
  | _ => .text text

theorem textValue_inj {f : FieldDefinition} {s t : String} :
    f.textValue s = f.textValue t ↔ s = t := by
  unfold textValue
  split <;> simp

/-- The instances of a field are different resources. -/
def HasOwnInstances (f : FieldDefinition) : Prop :=
  (f.instances.map (·.iri)).Nodup

instance (f : FieldDefinition) : Decidable f.HasOwnInstances :=
  inferInstanceAs (Decidable (List.Nodup _))

theorem HasOwnInstances.eq_of_iri_eq (h : f.HasOwnInstances) {j : Labelled} (hi : i ∈ f.instances)
    (hj : j ∈ f.instances) (heq : i.iri = j.iri) : i = j :=
  List.inj_on_of_nodup_map h hi hj heq

/-- The resource of an instance stands for its label. -/
theorem HasOwnInstances.instanceLabel? (h : f.HasOwnInstances) (hi : i ∈ f.instances) :
    f.instanceLabel? i.iri = some i.label := by
  have hfound : f.instances.find? (·.iri = i.iri) = some i :=
    (find?_name_eq_some_iff h).mpr ⟨hi, rfl⟩
  rw [FieldDefinition.instanceLabel?, hfound, Option.map_some]

end FieldDefinition

namespace Result

variable {f : FieldDefinition} {i : Labelled} {ids : IdCache} {n : LocalId}

theorem toList_toString (n : Nat) : (toString n).toList = Number.natDigits n := by
  simp [Number.natDigits]

theorem toString_ne_empty (n : Nat) : toString n ≠ "" := by
  intro h
  exact Number.natDigits_ne_nil n (by rw [← toList_toString, h]; rfl)

/-- The text of a number is the list of it alone. -/
theorem idsOf_toString (n : LocalId) : idsOf (toString n.toNat) = [n] := by
  have hfree : Packed.list ∉ (toString n.toNat).toList := by
    intro h
    rw [toList_toString] at h
    exact absurd (Number.isDigit_of_mem_natDigits h) (by decide)
  have hword : Number.word? (toString n.toNat).toList = some n := by
    have hbound : n.toNat < Number.pow2 32 := n.toNat_lt
    rw [toList_toString, Number.word?, Number.unsigned?_natDigits hbound, Option.map_some,
      UInt32.ofNat_toNat]
  have hitems : Packed.listItems (toString n.toNat) = [toString n.toNat] := by
    rw [Packed.listItems, Packed.items, Packed.parts_eq_singleton hfree]
    exact List.filter_cons_of_pos (decide_eq_true (toString_ne_empty n.toNat))
  rw [idsOf, hitems]
  simp only [List.filterMap_cons, List.filterMap_nil, hword]

/-- The number of an instance is read as its label. -/
theorem fieldValue_toString (hown : f.HasOwnInstances) (hi : i ∈ f.instances)
    (hn : ids.iri? n = some i.iri) :
    fieldValue ids f (toString n.toNat) = some (f.textValue i.label) := by
  have hlabels : (resourcesOf ids (toString n.toNat)).filterMap f.instanceLabel? = [i.label] := by
    rw [resourcesOf, idsOf_toString, List.filterMap_cons_some hn, List.filterMap_nil,
      List.filterMap_cons_some (hown.instanceLabel? hi), List.filterMap_nil]
  have hinstances : f.instances.isEmpty = false := by
    simpa using List.ne_nil_of_mem hi
  rw [fieldValue, if_neg (toString_ne_empty _), hinstances, Bool.not_false, if_pos rfl,
    instanceValue, hlabels]
  unfold labelsValue FieldDefinition.textValue
  cases f.type <;> rfl

end Result

namespace Query

variable {s : Scope} {d : DetailDefinition} {f : FieldDefinition} {w : String}

/-! ## Filters on instances -/

/-- Texts are the same, letter case included. -/
def sameText : MatchFlags :=
  ⟨.exactly, true⟩

theorem matches_sameText_iff {t : String} : sameText.Matches t w ↔ t = w := by
  simp [sameText, MatchFlags.Matches, MatchFlags.folds, MatchMode.Relates]

/-- The condition that a value has one of some numbers; it is false when there are none. -/
def Reach.selects (r : Reach) (ids : List LocalId) : Expr :=
  if ids = [] then .bool false else .holds (r.group ++ [.filter (idIn r.value ids)])

/-- A filter on a field with instances selects the numbers of those whose labels match. -/
theorem fieldMatch_instances (hinstances : f.instances ≠ []) (hallowed : f.allowed = []) (n : Nat) :
    (fieldMatch s d f (.text w) sameText n).1 =
      (reachField d f n).1.selects (matchingIds s f (.text w) sameText) := by
  have hphone : (sameText.mode = .phoneNumber && decide (d.name = Names.phoneNumber)) = false := rfl
  have hpossible : isPossible f (.text w) sameText = true := by simp [isPossible, hallowed]
  have hempty : f.instances.isEmpty = false := by simpa using hinstances
  unfold fieldMatch Reach.selects
  simp only [hphone, hpossible, hempty]
  cases matchingIds s f (.text w) sameText <;> rfl

/-- The number of an instance is selected by its label alone. -/
theorem mem_matchingIds_iff_label {entries : List (Iri × LocalId)} {i : Labelled} {n : LocalId}
    (hcache : s.ids = IdCache.filled entries) (hiris : (entries.map (·.1)).Nodup)
    (hids : (entries.map (·.2)).Nodup) (hown : f.HasOwnInstances) (hi : i ∈ f.instances)
    (hn : s.ids.iri? n = some i.iri) :
    n ∈ matchingIds s f (.text w) sameText ↔ i.label = w := by
  have hentry : (i.iri, n) ∈ entries := (IdCache.iri?_filled_iff hiris hids).mp (hcache ▸ hn)
  simp only [mem_matchingIds_iff, matches_sameText_iff, Value.toText, hcache,
    IdCache.id?_filled_iff hiris]
  constructor
  · rintro ⟨j, hj, hlabel, hentry'⟩
    have hiri : i.iri = j.iri := congrArg (·.1) (List.inj_on_of_nodup_map hids hentry hentry' rfl)
    rw [hown.eq_of_iri_eq hi hj hiri, hlabel]
  · rintro rfl
    exact ⟨i, hi, rfl, hentry⟩

/-- A field that a filter can ask for, and whose values it compares. -/
structure Scope.CanCompare (s : Scope) (d : DetailDefinition) (f : FieldDefinition) : Prop where
  /-- The detail is not the type of the contact. -/
  notType : d.name ≠ Names.type
  /-- The schema has the detail. -/
  detail : s.schema.detail? d.name = some d
  /-- The detail is in the store. -/
  stored : d.computed = false
  /-- The field is not the context of the detail. -/
  notContext : f.name ≠ Names.context
  /-- The detail has the field. -/
  field : d.field? f.name = some f
  /-- The field is in the store. -/
  fieldStored : f.computed = false
  /-- The field is not for sub-types. -/
  plain : f.subTypes = none

/-- A filter on a field with a value is the comparison of the field. -/
theorem restriction_fieldIs (h : s.CanCompare d f) (value : Value) (flags : MatchFlags) (n : Nat) :
    restriction s (.fieldIs d.name f.name value flags) n =
      .ok (fieldMatch s d f value flags n) := by
  simp [restriction, Filter.fieldIs, detailMatch, definedMatch, oneFieldMatch, accept, h.notType,
    h.detail, h.stored, h.notContext, h.field, h.fieldStored, h.plain]

/-- A filter for a text on a field with instances selects the numbers that are read as the text. -/
structure FiltersAsRead (s : Scope) (d : DetailDefinition) (f : FieldDefinition) (w : String)
    (ids : List LocalId) : Prop where
  /-- The condition on the field selects the numbers. -/
  field (n : Nat) :
    (fieldMatch s d f (.text w) sameText n).1 = (reachField d f n).1.selects ids
  /-- So does a filter on the field. -/
  filter (h : s.CanCompare d f) (n : Nat) :
    ∃ m, restriction s (.fieldIs d.name f.name (.text w) sameText) n =
      .ok ((reachField d f n).1.selects ids, m)
  /-- Of the numbers that stand for instances just those are selected that are read as the text. -/
  mem_iff (n : LocalId) (i : Labelled) (hi : i ∈ f.instances) (hn : s.ids.iri? n = some i.iri) :
    n ∈ ids ↔ Result.fieldValue s.ids f (toString n.toNat) = some (f.textValue w)
  /-- When no instance of the label has a number, the condition is false. -/
  unknown (h : ∀ i ∈ f.instances, i.label = w → s.ids.id? i.iri = none) (n : Nat) :
    (fieldMatch s d f (.text w) sameText n).1 = .bool false

/-- Filters on the instances of a field and readers of its values agree, as long as no two resources
of the cache and no two instances share what they are known by. -/
theorem exists_filtersAsRead {entries : List (Iri × LocalId)}
    (hcache : s.ids = IdCache.filled entries) (hiris : (entries.map (·.1)).Nodup)
    (hids : (entries.map (·.2)).Nodup) (hinstances : f.instances ≠ [])
    (hown : f.HasOwnInstances) (hallowed : f.allowed = []) (d : DetailDefinition) (w : String) :
    ∃ ids, FiltersAsRead s d f w ids := by
  have hfield := fun n => fieldMatch_instances (s := s) (d := d) (w := w) hinstances hallowed n
  refine ⟨matchingIds s f (.text w) sameText, hfield, ?_, ?_, ?_⟩
  · intro h n
    rw [restriction_fieldIs h, ← hfield n]
    exact ⟨_, rfl⟩
  · intro n i hi hn
    rw [mem_matchingIds_iff_label hcache hiris hids hown hi hn,
      Result.fieldValue_toString hown hi hn, Option.some.injEq, FieldDefinition.textValue_inj]
  · intro hunknown n
    have hnone : matchingIds s f (.text w) sameText = [] := by
      refine List.eq_nil_iff_forall_not_mem.mpr fun id hid => ?_
      obtain ⟨i, hi, hlabel, hsome⟩ := mem_matchingIds_iff.mp hid
      simp [hunknown i hi (matches_sameText_iff.mp hlabel)] at hsome
    rw [hfield n, hnone, Reach.selects, if_pos rfl]

/-- Persons, with numbers for two of the three genders. -/
def knownGenders : Scope :=
  { schema := Standard.person
    settings := {}
    ids := IdCache.filled [(Vocabulary.Nco.genderMale, 301), (Vocabulary.Nco.genderFemale, 302)] }

/-- A filter for the first gender selects its number and not that of the second. -/
theorem exists_filtersAsRead_gender : ∃ ids,
    FiltersAsRead knownGenders Standard.gender (Standard.gender.fieldAt 0) "Male" ids ∧
      301 ∈ ids ∧ 302 ∉ ids := by
  obtain ⟨ids, h⟩ := exists_filtersAsRead (s := knownGenders) (f := Standard.gender.fieldAt 0) rfl
    (by decide) (by decide) (by decide) (by decide) rfl Standard.gender "Male"
  refine ⟨ids, h, ?_, ?_⟩
  · exact (h.mem_iff 301 ⟨Vocabulary.Nco.genderMale, "Male"⟩ (by decide) rfl).mpr rfl
  · rw [h.mem_iff 302 ⟨Vocabulary.Nco.genderFemale, "Female"⟩ (by decide) rfl]
    show some (Value.text "Female") ≠ some (Value.text "Male")
    simp

end Query

end ContactGraph
