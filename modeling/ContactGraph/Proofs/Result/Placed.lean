import ContactGraph.Proofs.Number.Digits
import ContactGraph.Proofs.Result.Packed
import ContactGraph.Proofs.Sort.Stable
import Mathlib.Data.List.Nodup

/-!
# Values with positions

A value that stands in a cell behind its position and a colon is read with that position, whatever
colons are in it (`Placed.positioned_tuple`). Values from several places of a cell are put in the
order of their positions, and those of one position keep their order (`orderedValues_join`); so
where no two positions are equal, the order they come in makes no difference (`inOrder_of_perm`).
-/

namespace ContactGraph.Packed

/-- A text with no separator of details, fields or values in it. -/
structure Plain where
  /-- The text. -/
  text : String
  /-- It does not end a detail. -/
  detail_notMem : detail ∉ text.toList := by decide
  /-- It does not end a field. -/
  field_notMem : field ∉ text.toList := by decide
  /-- It does not end a value. -/
  list_notMem : list ∉ text.toList := by decide

/-- A value with its position among the values of a field. -/
structure Placed where
  /-- The position. -/
  position : UInt64
  /-- The value. -/
  value : Plain

namespace Placed

variable {v : Placed} {c : Char}

/-- The value as a cell has it, behind its position and a colon. -/
def tuple (v : Placed) : String :=
  String.ofList (Number.natDigits v.position.toNat) ++ String.singleton ':' ++ v.value.text

theorem toList_tuple (v : Placed) :
    v.tuple.toList = Number.natDigits v.position.toNat ++ ':' :: v.value.text.toList := by
  simp [tuple]

theorem tuple_ne_empty (v : Placed) : v.tuple ≠ "" := by
  intro h
  have hlist := congrArg String.toList h
  rw [toList_tuple] at hlist
  simp at hlist

theorem not_mem_tuple (hdigit : c.isDigit = false) (hcolon : c ≠ ':')
    (hvalue : c ∉ v.value.text.toList) : c ∉ v.tuple.toList := by
  rw [toList_tuple, List.mem_append, List.mem_cons]
  rintro (h | h | h)
  · rw [Number.isDigit_of_mem_natDigits h] at hdigit
    exact absurd hdigit (by decide)
  · exact hcolon h
  · exact hvalue h

/-- A value is read with its position, colons or not. -/
theorem positioned_tuple (v : Placed) : positioned v.tuple = (v.position.toNat, v.value.text) := by
  have hdigits : ∀ c ∈ Number.natDigits v.position.toNat, (decide (c ≠ ':')) = true := by
    rintro c hc
    refine decide_eq_true fun hcolon => ?_
    have hdigit := Number.isDigit_of_mem_natDigits hc
    rw [hcolon] at hdigit
    exact absurd hdigit (by decide)
  have hsplit : splitOnce? ':' v.tuple =
      some (String.ofList (Number.natDigits v.position.toNat), v.value.text) := by
    simp only [splitOnce?, toList_tuple, List.dropWhile_append_of_pos hdigits,
      List.takeWhile_append_of_pos hdigits]
    simp
  have hbound : v.position.toNat < Number.pow2 64 := v.position.toNat_lt
  have hread := Number.unsigned?_natDigits hbound
  rw [positioned, hsplit]
  simp only [String.toList_ofList, hread]

end Placed

/-! ## Order -/

/-- Values in the order of their positions. Those of one position keep their order. -/
def inOrder (vs : List Placed) : List String :=
  (vs.mergeSort fun v w => v.position ≤ w.position).map (·.value.text)

@[simp] theorem inOrder_nil : inOrder [] = [] := by
  rw [inOrder, List.mergeSort_nil, List.map_nil]

/-- Positions are compared as numbers. -/
theorem inOrder_eq (vs : List Placed) :
    (Sort.stable (fun a b : Nat × String => a.1 < b.1)
      (vs.map fun v => (v.position.toNat, v.value.text))).map (·.2) = inOrder vs := by
  have hweak := Sort.weakOrderOn_key (Prod.fst : Nat × String → Nat) fun _ => True
  rw [Sort.stable_eq_mergeSort hweak, inOrder, ← List.map_mergeSort (r := fun v w : Placed =>
    decide (v.position ≤ w.position)), List.map_map]
  · rfl
  · intro v _ w _
    simp only [UInt64.le_iff_toNat_le]
    by_cases h : w.position.toNat < v.position.toNat
    · simp [h]
    · simp [h, Nat.le_of_not_lt h]

/-- Values from several places of a cell are read in the order of their positions. -/
theorem orderedValues_join (vss : List (List Placed)) :
    orderedValues (join list (vss.map fun vs => join list (vs.map Placed.tuple))) =
      inOrder vss.flatten := by
  have hitems : ∀ vs : List Placed, items list (join list (vs.map Placed.tuple)) =
      vs.map Placed.tuple := by
    intro vs
    have hfree : ∀ t ∈ vs.map Placed.tuple, list ∉ t.toList := by
      rw [List.forall_mem_map]
      exact fun v _ => Placed.not_mem_tuple (by decide) (by decide) v.value.list_notMem
    rw [items_join hfree, List.filter_eq_self, List.forall_mem_map]
    exact fun v _ => decide_eq_true v.tuple_ne_empty
  have hlist : listItems (join list (vss.map fun vs => join list (vs.map Placed.tuple))) =
      vss.flatten.map Placed.tuple := by
    rw [listItems, items_join_flatMap, List.flatMap_map]
    simp only [hitems, List.map_flatten, List.flatMap_def]
  have hread : positioned ∘ Placed.tuple = fun v => (v.position.toNat, v.value.text) :=
    funext Placed.positioned_tuple
  rw [orderedValues, hlist, List.map_map, hread, inOrder_eq]

/-- Where no two positions are equal, the values may come in any order. -/
theorem inOrder_of_perm {vs ws : List Placed} (h : vs.Perm ws)
    (hnodup : (vs.map (·.position)).Nodup) : inOrder vs = inOrder ws := by
  have htrans : ∀ u v w : Placed, decide (u.position ≤ v.position) = true →
      decide (v.position ≤ w.position) = true → decide (u.position ≤ w.position) = true := by
    simp only [decide_eq_true_eq]
    exact fun _ _ _ => UInt64.le_trans
  have htotal : ∀ u v : Placed,
      (decide (u.position ≤ v.position) || decide (v.position ≤ u.position)) = true := by
    simp only [Bool.or_eq_true, decide_eq_true_eq]
    exact fun u v => UInt64.le_total u.position v.position
  have hsorted := List.pairwise_mergeSort htrans htotal
  have hperm := ((List.mergeSort_perm vs fun v w => decide (v.position ≤ w.position)).trans h).trans
    (List.mergeSort_perm ws fun v w => decide (v.position ≤ w.position)).symm
  have hsame := hperm.eq_of_pairwise (fun v w hv hw hvw hwv => by
    have hvs := (List.mergeSort_perm vs _).mem_iff.mp hv
    have hws := h.mem_iff.mpr ((List.mergeSort_perm ws _).mem_iff.mp hw)
    refine List.inj_on_of_nodup_map hnodup hvs hws ?_
    exact UInt64.le_antisymm (of_decide_eq_true hvw) (of_decide_eq_true hwv))
    (hsorted vs) (hsorted ws)
  rw [inOrder, inOrder, hsame]

end ContactGraph.Packed
