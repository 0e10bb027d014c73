import ContactGraph.Query.Match
import ContactGraph.Result.FieldText

/-!
# Where values come from

Each reader of the text of a field gives a value that it reads, one that is made of labels, or the
default. What it can give is said here once for each of them (`fieldValue_eq_some`,
`instanceValue_eq_some`, `allowedValue_eq_some`, `subTypeValue_eq_some`, `classValue_eq_some`).
-/

namespace ContactGraph

open Query

namespace FieldDefinition

/-- The labels of the sub-types. -/
def subTypeLabels (f : FieldDefinition) : List String :=
  match f.subTypes with
  | none => []
  | some (.byClass classes) => classes.map (·.label)
  | some (.byProperty properties) => properties.map (·.label)

end FieldDefinition

namespace Result

variable {f : FieldDefinition} {ids : IdCache} {raw : String} {labels : List String} {v w : Value}

/-- Labels make a list of them all, or one of them is the text. -/
theorem labelsValue_eq_some {type : ValueType} (h : labelsValue type labels = some v) :
    v = .list labels ∨ ∃ label ∈ labels, v = .text label := by
  unfold labelsValue at h
  split at h
  · exact .inl (Option.some.inj h).symm
  · obtain ⟨label, hlabel, rfl⟩ := Option.map_eq_some_iff.mp h
    exact .inr ⟨label, List.mem_of_head? hlabel, rfl⟩

/-- A field with instances gives the labels of some of them, or the default. -/
theorem instanceValue_eq_some (h : instanceValue ids f raw = some v) :
    f.default = some v ∨ ∃ labels, labels ≠ [] ∧ labels ⊆ f.instances.map (·.label) ∧
      labelsValue f.type labels = some v := by
  unfold instanceValue at h
  split at h
  · exact .inl h
  · rename_i label rest hlabels
    refine .inr ⟨_, List.cons_ne_nil label rest, fun l hl => ?_, h⟩
    rw [← hlabels] at hl
    obtain ⟨iri, -, hiri⟩ := List.mem_filterMap.mp hl
    obtain ⟨i, hi, rfl⟩ := Option.map_eq_some_iff.mp hiri
    exact List.mem_map_of_mem (List.mem_of_find?_eq_some hi)

/-- What is not a list has one text. -/
theorem wantedTexts_of_not_list (h : ∀ items, v = .list items → False) :
    wantedTexts v = [v.toText] := by
  cases v with
  | list items => exact (h items rfl).elim
  | _ => rfl

/-- Of a value just what is allowed is left, or the default stands in for it. -/
theorem allowedValue_eq_some (h : allowedValue f w = some v) :
    f.default = some v ∨ (∀ t ∈ wantedTexts v, f.allows t = true) ∧
      (v = w ∨ ∃ items, v = .list items ∧ items ≠ []) := by
  unfold allowedValue at h
  split at h
  · rename_i hany
    exact .inr ⟨fun t _ => by simp [FieldDefinition.allows, hany], .inl (Option.some.inj h).symm⟩
  · split at h
    · split at h
      · exact .inl h
      · rename_i item rest hitems
        cases h
        refine .inr ⟨fun t ht => ?_, .inr ⟨_, rfl, List.cons_ne_nil item rest⟩⟩
        exact (List.mem_filter.mp (hitems ▸ ht)).2
    · rename_i hlist
      split at h
      · rename_i hallows
        cases h
        refine .inr ⟨fun t ht => ?_, .inl rfl⟩
        rw [wantedTexts_of_not_list hlist, List.mem_singleton] at ht
        exact ht ▸ hallows
      · exact .inl h

/-- A text that is not empty is read as an instance, or as a value of the type of which the part
that is allowed is kept. -/
theorem fieldValue_eq_some (h : fieldValue ids f raw = some v) :
    raw ≠ "" ∧ (instanceValue ids f raw = some v ∨
      ∃ w, f.type.read? raw = some w ∧ allowedValue f w = some v) := by
  unfold fieldValue at h
  split at h
  · cases h
  · rename_i hne
    refine ⟨hne, ?_⟩
    split at h
    · exact .inl h
    · split at h
      · rename_i w hread
        exact .inr ⟨w, hread, h⟩
      · cases h

/-- The labels of sub-types are a value; without any the default stands in, or an empty list. -/
theorem subTypeValue_eq_some (h : subTypeValue f labels = some v) :
    f.default = some v ∨ v = .list [] ∨ labelsValue f.type labels = some v := by
  unfold subTypeValue at h
  split at h
  · exact .inr (.inr h)
  · split at h
    · rename_i w hw
      cases h
      exact .inl hw
    · exact .inr (.inl (Option.some.inj h).symm)
    · cases h

/-- Classes give the labels of sub-types that the field has. -/
theorem classValue_eq_some (h : classValue ids f raw = some v) :
    ∃ labels ⊆ f.subTypeLabels, subTypeValue f labels = some v := by
  unfold classValue at h
  split at h
  · rename_i classes hclasses
    refine ⟨_, fun label hlabel => ?_, h⟩
    obtain ⟨iri, -, hiri⟩ := List.mem_filterMap.mp hlabel
    obtain ⟨c, hc, rfl⟩ := Option.map_eq_some_iff.mp hiri
    simp only [FieldDefinition.subTypeLabels, hclasses]
    exact List.mem_map_of_mem (List.mem_of_find?_eq_some hc)
  · cases h

end Result

end ContactGraph
