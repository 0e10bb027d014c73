import ContactGraph.Contact.Detail
import ContactGraph.Proofs.NameMap

/-!
# Values of a detail

The values of a detail are a map : setting a field changes nothing of the others
(`Detail.value?_set`), and a detail has something in it just when one of its fields has
(`Detail.isEmpty_eq_false_iff`).
-/

namespace ContactGraph

namespace Detail

variable {d : Detail} {field : String}

@[simp] theorem value?_set (d : Detail) (field : String) (v : Value) (other : String) :
    (d.set field v).value? other = if other = field then some v else d.value? other :=
  d.values.get?_insert field v other

theorem value?_congr {x y : Detail} (h : x.values = y.values) (field : String) :
    x.value? field = y.value? field := by
  rw [value?, value?, h]

/-- A detail is not empty when a field has something in it. -/
theorem isEmpty_eq_false_iff :
    d.isEmpty = false ↔ ∃ field v, d.value? field = some v ∧ v.isEmpty = false := by
  rw [isEmpty, List.all_eq_false]
  constructor
  · rintro ⟨v, hv, hne⟩
    obtain ⟨field, hfield⟩ := NameMap.mem_values_iff.mp hv
    exact ⟨field, v, hfield, Bool.eq_false_iff.mpr hne⟩
  · rintro ⟨field, v, hfield, hne⟩
    exact ⟨v, NameMap.mem_values_iff.mpr ⟨field, hfield⟩, by simp [hne]⟩

end Detail

end ContactGraph
