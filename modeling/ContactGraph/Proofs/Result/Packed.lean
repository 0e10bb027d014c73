import ContactGraph.Result.Packed
import Mathlib.Data.List.Basic

/-!
# Joining and splitting

Texts joined by a separator can be told apart again, as long as none of them holds the separator and
there is at least one (`parts_join`). No text at all and one empty text join to the same; the
readers of cells leave empty parts out, so for them the two need not be told apart (`items_join`,
and of texts that hold the separator themselves, `items_join_flatMap`). An item has no separator in
it, and so is the only item of its own text (`items_of_mem_items`).
-/

namespace ContactGraph.Packed

variable {sep : Char} {texts : List String}

/-- Texts with separators between them, put behind each other. -/
theorem join_intersperse (sep : Char) (texts : List String) :
    String.join (texts.intersperse (String.singleton sep)) = join sep texts := by
  induction texts with
  | nil => rfl
  | cons t ts ih =>
    cases ts with
    | nil => simp [join]
    | cons u us =>
      rw [List.intersperse_cons_cons, String.join_cons, String.join_cons, ih, join, join,
        String.intercalate_cons_cons, String.append_assoc]

@[simp] theorem join_singleton (sep : Char) (t : String) : join sep [t] = t :=
  String.intercalate_singleton

theorem join_append (sep : Char) {us : List String} (hne : texts ≠ []) (hne' : us ≠ []) :
    join sep (texts ++ us) = join sep texts ++ String.singleton sep ++ join sep us := by
  induction texts with
  | nil => exact absurd rfl hne
  | cons t ts ih =>
    cases ts with
    | nil =>
      obtain ⟨u, us, rfl⟩ := List.exists_cons_of_ne_nil hne'
      simp [join, String.intercalate_cons_cons]
    | cons v vs =>
      have hcons : ∀ ws,
          join sep (t :: v :: ws) = t ++ String.singleton sep ++ join sep (v :: ws) :=
        fun _ => String.intercalate_cons_cons
      rw [List.cons_append, List.cons_append, hcons, hcons, ← List.cons_append,
        ih (List.cons_ne_nil v vs)]
      simp only [String.append_assoc]

/-- Texts joined in groups are joined. -/
theorem join_map_join (sep : Char) {groups : List (List String)} (hne : ∀ ts ∈ groups, ts ≠ []) :
    join sep (groups.map (join sep)) = join sep groups.flatten := by
  induction groups with
  | nil => rfl
  | cons ts groups ih =>
    rw [List.forall_mem_cons] at hne
    cases groups with
    | nil => simp [join]
    | cons us groups =>
      have hflat : (us :: groups).flatten ≠ [] := by
        rw [List.flatten_cons]
        exact List.append_ne_nil_of_left_ne_nil (hne.2 us List.mem_cons_self) _
      rw [List.flatten_cons, join_append sep hne.1 hflat, ← ih hne.2]
      exact String.intercalate_cons_cons

theorem parts_eq_singleton {s : String} (hfree : sep ∉ s.toList) : parts sep s = [s] := by
  rw [parts, List.splitOn_eq_singleton hfree, List.map_singleton, String.ofList_toList]

theorem parts_append (sep : Char) (s t : String) :
    parts sep (s ++ String.singleton sep ++ t) = parts sep s ++ parts sep t := by
  rw [parts, parts, parts, ← List.map_append, String.toList_append, String.toList_append,
    String.toList_singleton, List.append_assoc, List.singleton_append,
    List.splitOn_append_cons_self]

/-- The parts of joined texts are their parts behind each other. -/
theorem parts_join_flatMap (hne : texts ≠ []) :
    parts sep (join sep texts) = texts.flatMap (parts sep) := by
  induction texts with
  | nil => exact absurd rfl hne
  | cons t ts ih =>
    cases ts with
    | nil => simp [join]
    | cons u us =>
      rw [List.flatMap_cons, ← ih (List.cons_ne_nil u us), ← parts_append, join, join,
        String.intercalate_cons_cons]

/-- The items of joined texts are their items behind each other. -/
theorem items_join_flatMap (sep : Char) (texts : List String) :
    items sep (join sep texts) = texts.flatMap (items sep) := by
  cases texts with
  | nil => rfl
  | cons t ts =>
    rw [items, parts_join_flatMap (List.cons_ne_nil t ts), List.filter_flatMap]
    rfl

/-- Joined texts are the parts of what they join to. -/
theorem parts_join (hne : texts ≠ []) (hfree : ∀ t ∈ texts, sep ∉ t.toList) :
    parts sep (join sep texts) = texts := by
  calc parts sep (join sep texts)
      = texts.flatMap (parts sep) := parts_join_flatMap hne
    _ = texts.flatMap fun t => [t] :=
        List.flatMap_congr fun t ht => parts_eq_singleton (hfree t ht)
    _ = texts := List.flatMap_singleton' texts

/-- Joined texts but for the empty ones are the items of what they join to. -/
theorem items_join (hfree : ∀ t ∈ texts, sep ∉ t.toList) :
    items sep (join sep texts) = texts.filter (· ≠ "") := by
  cases texts with
  | nil => rfl
  | cons t ts => rw [items, parts_join (List.cons_ne_nil t ts) hfree]

theorem mem_toList_join {c : Char} (hc : c ∈ (join sep texts).toList) :
    c = sep ∨ ∃ t ∈ texts, c ∈ t.toList := by
  induction texts with
  | nil => exact absurd hc (by simp [join])
  | cons t ts ih =>
    cases ts with
    | nil => exact .inr ⟨t, List.mem_cons_self, by simpa [join] using hc⟩
    | cons u us =>
      simp only [join, String.intercalate_cons_cons, String.toList_append, List.mem_append,
        String.toList_singleton, List.mem_singleton] at hc
      rcases hc with (hc | hc) | hc
      · exact .inr ⟨t, List.mem_cons_self, hc⟩
      · exact .inl hc
      · rcases ih hc with h | ⟨v, hv, hc⟩
        · exact .inl h
        · exact .inr ⟨v, List.mem_cons_of_mem t hv, hc⟩

theorem not_mem_join {c : Char} (hsep : c ≠ sep) (hfree : ∀ t ∈ texts, c ∉ t.toList) :
    c ∉ (join sep texts).toList := by
  intro hmem
  rcases mem_toList_join hmem with h | ⟨t, ht, hmem⟩
  · exact hsep h
  · exact hfree t ht hmem

/-- What joins to the empty text has nothing in it. -/
theorem join_eq_empty (h : join sep texts = "") : texts = [] ∨ texts = [""] := by
  match texts with
  | [] => exact .inl rfl
  | [t] => exact .inr (by simpa [join] using h)
  | t :: u :: us =>
    have hsep : sep ∈ (join sep (t :: u :: us)).toList := by simp [join]
    rw [h] at hsep
    exact absurd hsep (by simp)

/-- No piece of a split has what was split at. -/
theorem not_mem_of_mem_splitOn {α : Type} [BEq α] [LawfulBEq α] {a : α} {xs piece : List α}
    (h : piece ∈ xs.splitOn a) : a ∉ piece := by
  induction xs generalizing piece with
  | nil => simp_all
  | cons x xs ih =>
    rw [List.splitOn_cons_eq_if_modifyHead] at h
    split at h
    · rcases List.mem_cons.mp h with rfl | h
      · exact List.not_mem_nil
      · exact ih h
    · rename_i hx
      obtain ⟨first, rest, heq⟩ := List.exists_cons_of_ne_nil (List.splitOn_ne_nil a xs)
      rw [heq, List.modifyHead_cons] at h
      rw [heq] at ih
      rcases List.mem_cons.mp h with rfl | h
      · have hfirst : a ∉ first := ih List.mem_cons_self
        have hne : a ≠ x := fun hax => hx (beq_iff_eq.mpr hax.symm)
        simp [hfirst, hne]
      · exact ih (List.mem_cons_of_mem first h)

theorem ne_empty_of_mem_items {item s : String} (h : item ∈ items sep s) : item ≠ "" := by
  simpa using (List.mem_filter.mp h).2

/-- An item is all the items of its own text. -/
theorem items_of_mem_items {item s : String} (h : item ∈ items sep s) :
    items sep item = [item] := by
  obtain ⟨cs, hcs, rfl⟩ := List.mem_map.mp (List.mem_filter.mp h).1
  have hfree : sep ∉ (String.ofList cs).toList := by
    simpa using not_mem_of_mem_splitOn hcs
  rw [items, parts_eq_singleton hfree]
  simpa using ne_empty_of_mem_items h

/-! ## Cells -/

/-- The text of a cell whose details have the given fields. -/
def cell (texts : List (List String)) : String :=
  join detail (texts.map (join field))

/-- The details of a cell are those whose fields do not join to the empty text. -/
theorem detailItems_cell {texts : List (List String)}
    (hfree : ∀ ts ∈ texts, ∀ t ∈ ts, detail ∉ t.toList) :
    detailItems (cell texts) = (texts.map (join field)).filter (· ≠ "") := by
  refine items_join fun item hitem => ?_
  obtain ⟨ts, hts, rfl⟩ := List.mem_map.mp hitem
  exact not_mem_join (by decide) (hfree ts hts)

end ContactGraph.Packed
