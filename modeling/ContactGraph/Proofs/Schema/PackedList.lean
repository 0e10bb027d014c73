import ContactGraph.Proofs.Schema.Coercion

/-!
# Packed values of single fields

A field that holds one value can have several in the store, and they come packed into one text. A
text takes the first of them, as a list that becomes a single value does. The other types read the
text as a whole : a number, a truth value or an instant cannot be read from it
(`ValueType.read?_eq_none`), and a URL keeps all values with the separators between them. So reading
packed values agrees with the list of them just for lists and texts, for one value, and where the
first value cannot be read either (`ValueType.decode_join_agree_iff`).
-/

namespace ContactGraph

namespace Packed

variable {sep : Char} {texts : List String}

/-- Texts without empty ones are the items of what they join to. -/
theorem listItems_join (hitems : ∀ t ∈ texts, t ≠ "" ∧ list ∉ t.toList) :
    listItems (join list texts) = texts := by
  rw [listItems, items_join fun t ht => (hitems t ht).2, List.filter_eq_self]
  exact fun t ht => decide_eq_true (hitems t ht).1

/-- Two joined texts have the separator between them. -/
theorem mem_join (t : String) (hne : texts ≠ []) : sep ∈ (join sep (t :: texts)).toList := by
  obtain ⟨u, us, rfl⟩ := List.exists_cons_of_ne_nil hne
  simp [join, String.intercalate_cons_cons]

end Packed

namespace ValueType

variable {t : ValueType} {raw first : String} {rest : List String}

/-- There is no separator in a number, a truth value or an instant. -/
theorem read?_eq_none (ht : t = .instant ∨ t = .integer ∨ t = .bool)
    (h : Packed.list ∈ raw.toList) : t.read? raw = none := by
  have htrim : Packed.list ∈ Text.trim raw.toList := (Text.mem_trim_iff (by decide)).mpr h
  rcases ht with rfl | rfl | rfl
  · rw [read?, Instant.ofText?_eq_none (by decide) htrim, Option.map_none]
  · rw [read?, Number.signed?_eq_none htrim (by decide) (by decide) (by decide), Option.map_none]
  · have hnone : boolOf? (Text.trim raw.toList) = none := by
      generalize Text.trim raw.toList = cs at htrim
      have hne (s : String) (hs : Packed.list ∉ s.toList) : String.ofList cs ≠ s := by
        rintro rfl
        rw [String.toList_ofList] at hs
        exact hs htrim
      simp [boolOf?, hne "true" (by decide), hne "1" (by decide), hne "false" (by decide),
        hne "0" (by decide)]
    rw [read?, hnone, Option.map_none]

/-- Two readings give the same value, or both fail. -/
def Agree (r s : Except ValueError Value) : Prop :=
  r.toOption = s.toOption

theorem agree_error_iff {e : ValueError} :
    Agree (.error e) (t.decode raw) ↔ t.read? raw = none := by
  rw [Agree, decode]
  cases t.read? raw <;> simp [Except.toOption]

/-- What several packed values are read as : all of them as a list, and the first as a text. For a
URL they stay together, and nothing else can be read from them. -/
def severalPacked (t : ValueType) (first : String) (rest : List String) :
    Except ValueError Value :=
  let packed := Packed.join Packed.list (first :: rest)
  match t with
  | .list => .ok (.list (first :: rest))
  | .text => .ok (.text first)
  | .url => .ok (.url packed)
  | _ => .error ⟨packed, t⟩

theorem decode_join (ht : t ≠ .double) (hrest : rest ≠ [])
    (hitems : ∀ item ∈ first :: rest, item ≠ "" ∧ Packed.list ∉ item.toList) :
    t.decode (Packed.join Packed.list (first :: rest)) = t.severalPacked first rest := by
  have hsep : Packed.list ∈ (Packed.join Packed.list (first :: rest)).toList :=
    Packed.mem_join first hrest
  cases t with
  | list => rw [decode, read?, Packed.listItems_join hitems, severalPacked]
  | text => rw [decode, read?, Packed.listItems_join hitems, List.headD_cons, severalPacked]
  | url => rw [decode, read?, severalPacked]
  | double => exact absurd rfl ht
  | instant => exact decode_eq_error (read?_eq_none (.inl rfl) hsep)
  | integer => exact decode_eq_error (read?_eq_none (.inr (.inl rfl)) hsep)
  | bool => exact decode_eq_error (read?_eq_none (.inr (.inr rfl)) hsep)

/-- What is read from packed values agrees with what the list of them becomes, all of them for a
list and the first for another type, just when they are read as a list or a text, when there is only
one, or when neither can be read. What is read from several is said for each type. -/
theorem decode_join_agree_iff (ht : t ≠ .double)
    (hitems : ∀ item ∈ first :: rest, item ≠ "" ∧ Packed.list ∉ item.toList) :
    t.coerce (.list (first :: rest)) =
      (if t = .list then .ok (.list (first :: rest)) else t.decode first) ∧
    (Agree (t.decode (Packed.join Packed.list (first :: rest))) (t.coerce (.list (first :: rest))) ↔
      t = .list ∨ t = .text ∨ rest = [] ∨ t ≠ .url ∧ t.read? first = none) ∧
    (rest ≠ [] → t.decode (Packed.join Packed.list (first :: rest)) =
      t.severalPacked first rest) := by
  have hcoerce : t.coerce (.list (first :: rest)) =
      if t = .list then .ok (.list (first :: rest)) else t.decode first := by
    split
    · rename_i hlist
      rw [hlist, coerce]
    · rename_i hlist
      exact coerce_cons hlist first rest
  have hfirst : Packed.listItems first = [first] := by
    have hone : Packed.listItems (Packed.join Packed.list [first]) = [first] :=
      Packed.listItems_join fun item hitem => hitems item (by simp [List.mem_singleton.mp hitem])
    rwa [Packed.join_singleton] at hone
  refine ⟨hcoerce, ?_, fun hrest => decode_join ht hrest hitems⟩
  rw [hcoerce]
  by_cases hrest : rest = []
  · subst hrest
    refine iff_of_true ?_ (.inr (.inr (.inl rfl)))
    rw [Packed.join_singleton]
    split
    · rename_i hlist
      rw [hlist, decode, read?, hfirst, Agree]
    · exact rfl
  · rw [decode_join ht hrest hitems]
    cases t with
    | list => simp [Agree, severalPacked]
    | text => simp [Agree, severalPacked, decode, read?, hfirst]
    | url =>
      have hne : Packed.join Packed.list (first :: rest) ≠ first := fun heq =>
        (hitems first List.mem_cons_self).2 (heq ▸ Packed.mem_join first hrest)
      simp [Agree, severalPacked, decode, read?, hrest, hne, Except.toOption]
    | double => exact absurd rfl ht
    | instant => simp [severalPacked, agree_error_iff, hrest]
    | integer => simp [severalPacked, agree_error_iff, hrest]
    | bool => simp [severalPacked, agree_error_iff, hrest]

/-- No whole number is read from two, but the list of them becomes the first one. -/
theorem decode_join_agree_iff_seven :
    (∀ item ∈ ["7", "8"], item ≠ "" ∧ Packed.list ∉ item.toList) ∧
    ValueType.integer.coerce (.list ["7", "8"]) = .ok (.integer 7) ∧
    ValueType.integer.decode (Packed.join Packed.list ["7", "8"]) =
      .error ⟨"7\x1d8", .integer⟩ := by
  have hitems : ∀ item ∈ ["7", "8"], item ≠ "" ∧ Packed.list ∉ item.toList := by decide
  obtain ⟨hcoerce, -, hseveral⟩ := decode_join_agree_iff (t := .integer) (by decide) hitems
  refine ⟨hitems, ?_, ?_⟩
  · rw [hcoerce]
    rfl
  · rw [hseveral (by decide)]
    rfl

/-- The two disagree about numbers, and about addresses : the first of two is not the text of both
with the separator in it. -/
theorem not_agree_two :
    ¬ Agree (ValueType.integer.decode (Packed.join Packed.list ["7", "8"]))
      (ValueType.integer.coerce (.list ["7", "8"])) ∧
    ValueType.url.decode (Packed.join Packed.list ["a", "b"]) = .ok (.url "a\x1db") ∧
    ValueType.url.coerce (.list ["a", "b"]) = .ok (.url "a") := by
  refine ⟨?_, ?_, ?_⟩
  · have hseven : ValueType.integer.decode "7" = .ok (.integer 7) := by rfl
    have hseparator : Packed.list ∈ (Packed.join Packed.list ["7", "8"]).toList := by decide
    rw [decode_eq_error (read?_eq_none (.inr (.inl rfl)) hseparator),
      coerce_cons (by decide), hseven, Agree]
    simp [Except.toOption]
  · rfl
  · rfl

end ValueType

end ContactGraph
