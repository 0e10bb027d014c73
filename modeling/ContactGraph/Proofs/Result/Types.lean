import ContactGraph.Proofs.Contact.Equality
import ContactGraph.Proofs.Result.Fields
import ContactGraph.Proofs.Schema.Coercion

/-!
# Types of values

A field has its default, or a value of its type, a text or a list (`FieldDefinition.MayHave`) :
labels are texts or make lists, also in fields of another type. So there are doubles only where a
field is for doubles or has one for its default, and in what a row tells every value equals itself
when the defaults do (`beq_self_of_mem_detailsOf`, `beq_self_of_mem_freeDetailsOf`).
-/

namespace ContactGraph

open Query

namespace FieldDefinition

/-- A value is the default of a field, or of a type that the field may have. -/
def MayHave (f : FieldDefinition) (v : Value) : Prop :=
  f.default = some v ∨ v.type = f.type ∨ v.type = .text ∨ v.type = .list

/-- The field is not for doubles, and its default equals itself. -/
structure IsReflexive (f : FieldDefinition) : Prop where
  /-- The values are no doubles. -/
  type_ne : f.type ≠ .double
  /-- The default equals itself. -/
  default : ∀ v, f.default = some v → (v == v) = true

/-- The field is not for doubles, and its default is none. -/
structure IsDoubleFree (f : FieldDefinition) : Prop where
  /-- The values are no doubles. -/
  type_ne : f.type ≠ .double
  /-- The default is no double. -/
  default : ∀ v, f.default = some v → v.type ≠ .double

variable {f : FieldDefinition} {v : Value}

theorem MayHave.default_or_type_ne (h : f.MayHave v) (hf : f.type ≠ .double) :
    f.default = some v ∨ v.type ≠ .double := by
  obtain h | h | h | h := h
  · exact .inl h
  · exact .inr (h ▸ hf)
  · exact .inr (by simp [h])
  · exact .inr (by simp [h])

theorem IsReflexive.beq_self (hf : f.IsReflexive) (h : f.MayHave v) : (v == v) = true :=
  (h.default_or_type_ne hf.type_ne).elim (hf.default v) Value.beq_self

theorem IsDoubleFree.type_ne_of_mayHave (hf : f.IsDoubleFree) (h : f.MayHave v) :
    v.type ≠ .double :=
  (h.default_or_type_ne hf.type_ne).elim (hf.default v) id

end FieldDefinition

/-- Places behind the last field are those of a text field without default. -/
theorem isReflexive_default : (default : FieldDefinition).IsReflexive where
  type_ne := by
    show ValueType.text ≠ .double
    simp
  default _ h := by cases h

theorem isDoubleFree_default : (default : FieldDefinition).IsDoubleFree where
  type_ne := isReflexive_default.type_ne
  default _ h := by cases h

namespace DetailDefinition

/-- What holds of all fields of a detail, and of a text field without default, holds of the field at
any place. -/
theorem forall_fieldAt {d : DetailDefinition} {P : FieldDefinition → Prop}
    (h : ∀ f ∈ d.fields, P f) (hdefault : P default) (i : Nat) : P (d.fieldAt i) := by
  rw [fieldAt, List.getD]
  cases hi : d.fields[i]? with
  | none => exact hdefault
  | some f => exact h f (List.mem_of_getElem? hi)

end DetailDefinition

/-- No field of a free detail is configured to be for doubles. -/
def Settings.IsDoubleFree (settings : Settings) : Prop :=
  ∀ detail field, settings.customType? detail field ≠ some .double

namespace Result

variable {frame : Frame} {d : DetailDefinition} {row : Row} {b : Query.Binding} {x : Detail}
  {f : FieldDefinition} {ids : IdCache} {raw field : String} {labels : List String} {v w : Value}

/-! ## Values of texts and labels -/

theorem mayHave_labelsValue {type : ValueType} (h : labelsValue type labels = some v) :
    f.MayHave v := by
  rcases labelsValue_eq_some h with rfl | ⟨label, -, rfl⟩
  · exact .inr (.inr (.inr rfl))
  · exact .inr (.inr (.inl rfl))

theorem mayHave_instanceValue (h : instanceValue ids f raw = some v) : f.MayHave v := by
  rcases instanceValue_eq_some h with h | ⟨labels, -, -, h⟩
  · exact .inl h
  · exact mayHave_labelsValue h

theorem mayHave_allowedValue (hw : w.type = f.type) (h : allowedValue f w = some v) :
    f.MayHave v := by
  rcases allowedValue_eq_some h with h | ⟨-, rfl | ⟨items, rfl, -⟩⟩
  · exact .inl h
  · exact .inr (.inl hw)
  · exact .inr (.inr (.inr rfl))

theorem mayHave_fieldValue (h : fieldValue ids f raw = some v) : f.MayHave v := by
  obtain ⟨-, h | ⟨w, hread, h⟩⟩ := fieldValue_eq_some h
  · exact mayHave_instanceValue h
  · exact mayHave_allowedValue (ValueType.type_of_read? hread) h

theorem mayHave_subTypeValue (h : subTypeValue f labels = some v) : f.MayHave v := by
  rcases subTypeValue_eq_some h with h | rfl | h
  · exact .inl h
  · exact .inr (.inr (.inr rfl))
  · exact mayHave_labelsValue h

theorem mayHave_classValue (h : classValue ids f raw = some v) : f.MayHave v := by
  obtain ⟨labels, -, h⟩ := classValue_eq_some h
  exact mayHave_subTypeValue h

/-! ## Values of details -/

theorem Sets.mayHave {p : Token × String} {i : Nat} (h : Sets frame d x p i v) :
    (d.fieldAt i).MayHave v := by
  cases h with
  | value h => exact mayHave_fieldValue h
  | added => exact .inr (.inr (.inr rfl))
  | custom _ h => exact .inr (.inl (ValueType.type_of_coerce h))
  | classes h => exact mayHave_classValue h

/-- A draft has values that fields of its detail may have. -/
theorem mayHave_of_value?_draftOf {parts : List (Token × String)}
    (h : (draftOf frame d parts).detail.value? field = some v) :
    ∃ i, (d.fieldAt i).name = field ∧ (d.fieldAt i).MayHave v := by
  refine forall_value?_draftOf
    (P := fun field v => ∃ i, (d.fieldAt i).name = field ∧ (d.fieldAt i).MayHave v) ?_ field v h
  intro x _ p _ i v hsets
  exact ⟨i, rfl, hsets.mayHave⟩

/-- What a binding tells has values that fields of its detail may have. -/
theorem mayHave_of_mem_detailsOf (hx : x ∈ detailsOf frame row b)
    (h : x.value? field = some v) :
    ∃ i, (b.detail.fieldAt i).name = field ∧ (b.detail.fieldAt i).MayHave v := by
  obtain ⟨parts, -, hmade⟩ := exists_isMadeOf hx
  obtain ⟨labels, -, hvalues⟩ := hmade.values_eq
  rw [Detail.value?_congr hvalues] at h
  rcases value?_withSubType h with h | ⟨i, -, hname, h⟩
  · exact mayHave_of_value?_draftOf h
  · exact ⟨i, hname, mayHave_subTypeValue h⟩

/-- What a binding tells equals itself when no field has a number that does not. -/
theorem beq_self_of_mem_detailsOf (hfields : ∀ f ∈ b.detail.fields, f.IsReflexive)
    (hx : x ∈ detailsOf frame row b) : (x == x) = true := by
  refine Detail.beq_self fun field v h => ?_
  obtain ⟨i, -, hv⟩ := mayHave_of_mem_detailsOf hx h
  have hfield : (b.detail.fieldAt i).IsReflexive :=
    DetailDefinition.forall_fieldAt hfields isReflexive_default i
  exact hfield.beq_self hv

/-! ## Free details -/

theorem type_textsValue {texts : List String} (h : textsValue texts = some v) :
    v.type ≠ .double := by
  unfold textsValue at h
  split at h <;> cases h <;> simp [Value.type]

theorem type_customValue {settings : Settings} (hsettings : settings.IsDoubleFree)
    (detail field : String) (hv : v.type ≠ .double) :
    (customValue settings detail field v).type ≠ .double := by
  unfold customValue
  split
  · exact hv
  · rename_i type htype
    split
    · rename_i typed htyped
      rw [ValueType.type_of_coerce htyped]
      rintro rfl
      exact hsettings detail field htype
    · exact hv

theorem type_of_value?_setCustom {settings : Settings} (hsettings : settings.IsDoubleFree)
    (hx : ∀ field v, x.value? field = some v → v.type ≠ .double) (e : String × List String) :
    ∀ field v, (setCustom settings x e).value? field = some v → v.type ≠ .double := by
  intro field v h
  unfold setCustom at h
  split at h
  · exact hx field v h
  · rename_i w hw
    rw [Detail.value?_set] at h
    split at h
    · cases h
      exact type_customValue hsettings _ _ (type_textsValue hw)
    · exact hx field v h

/-- A free detail has no doubles unless a field is configured to be for them. -/
theorem type_of_mem_freeDetailsOf {p : Plan} (hsettings : frame.settings.IsDoubleFree)
    (hx : x ∈ freeDetailsOf frame p row) (h : x.value? field = some v) : v.type ≠ .double := by
  unfold freeDetailsOf at hx
  split at hx
  · obtain ⟨item, -, hitem⟩ := List.mem_filterMap.mp hx
    unfold readCustom at hitem
    split at hitem
    · dsimp only at hitem
      split at hitem
      · cases hitem
      · cases hitem
        exact List.foldlRecOn
          (motive := fun x : Detail => ∀ field v, x.value? field = some v → v.type ≠ .double)
          _ _ (by simp [Detail.value?])
          (fun x hx e _ => type_of_value?_setCustom hsettings hx e) field v h
    · cases hitem
  · cases hx

theorem beq_self_of_mem_freeDetailsOf {p : Plan} (hsettings : frame.settings.IsDoubleFree)
    (hx : x ∈ freeDetailsOf frame p row) : (x == x) = true :=
  Detail.beq_self fun _ _ h => Value.beq_self (type_of_mem_freeDetailsOf hsettings hx h)

end Result

end ContactGraph
