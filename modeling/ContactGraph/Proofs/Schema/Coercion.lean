import ContactGraph.Proofs.Result.Packed
import ContactGraph.Proofs.Time.Written

/-!
# Values of a type and their texts

What a text is read as has the type it is read for (`ValueType.type_of_coerce`). A value that was
read is written so that it is read again, with two exceptions : the items of a list are not told
apart in its text, and an instant in a year without four digits is refused
(`ValueType.read?_toText`). Lists of texts are not read again when they become lists of texts, so
turning a value into one of its own type changes nothing, or fails for such an instant
(`ValueType.coerce_coerce_iff`).
-/

namespace ContactGraph

/-- A value that is an instant lies in a year of four digits. -/
def Value.HasPlainYear (v : Value) : Prop :=
  ∀ i, v = .instant i → i.HasPlainYear

namespace ValueType

variable {t : ValueType} {v w : Value} {raw : String}

/-! ## Types -/

theorem type_of_read? (h : t.read? raw = some v) : v.type = t := by
  cases t <;> simp only [read?, Option.map_eq_some_iff, Option.some.injEq] at h
  case text => rw [← h]; rfl
  case list => rw [← h]; rfl
  case url => rw [← h]; rfl
  all_goals
    obtain ⟨_, -, rfl⟩ := h
    rfl

theorem decode_eq_ok_iff : t.decode raw = .ok v ↔ t.read? raw = some v := by
  unfold decode
  cases t.read? raw <;> simp

theorem decode_eq_error (h : t.read? raw = none) : t.decode raw = .error ⟨raw, t⟩ := by
  rw [decode, h]

theorem type_of_decode (h : t.decode raw = .ok v) : v.type = t :=
  type_of_read? (decode_eq_ok_iff.mp h)

theorem type_of_coerce (h : t.coerce v = .ok w) : w.type = t := by
  unfold coerce at h
  split at h
  · cases h; rfl
  · cases h; rfl
  · exact type_of_decode h
  · exact type_of_decode h

/-! ## Coercion -/

/-- A list becomes a single value by its first item. -/
theorem coerce_cons (ht : t ≠ .list) (item : String) (items : List String) :
    t.coerce (.list (item :: items)) = t.decode item := by
  cases t with
  | list => exact absurd rfl ht
  | _ => rfl

/-- A single value becomes another one by its text. -/
theorem coerce_of_type_ne (ht : t ≠ .list) (hv : v.type ≠ .list) :
    t.coerce v = t.decode v.toText := by
  cases v with
  | list => exact absurd rfl hv
  | _ =>
    cases t with
    | list => exact absurd rfl ht
    | _ => rfl

/-- A single value is read from some text. -/
theorem exists_read?_of_coerce (ht : t ≠ .list) (h : t.coerce v = .ok w) :
    ∃ raw, t.read? raw = some w := by
  unfold coerce at h
  split at h
  · exact absurd rfl ht
  · exact absurd rfl ht
  · exact ⟨_, decode_eq_ok_iff.mp h⟩
  · exact ⟨_, decode_eq_ok_iff.mp h⟩

/-! ## Texts of values -/

/-- The first item of a text has no other item in it. -/
theorem headD_listItems (raw : String) :
    (Packed.listItems ((Packed.listItems raw).headD "")).headD "" =
      (Packed.listItems raw).headD "" := by
  cases h : Packed.listItems raw with
  | nil => rfl
  | cons item items =>
    have hitem : Packed.listItems item = [item] :=
      Packed.items_of_mem_items (s := raw) (by rw [← Packed.listItems, h]; exact List.mem_cons_self)
    rw [List.headD_cons, hitem, List.headD_cons]

theorem trim_intDigits (i : Int) : Text.trim (Number.intDigits i) = Number.intDigits i := by
  refine Text.trim_eq_self fun c hc => ?_
  have hdigits (hc : c ∈ Number.natDigits i.natAbs) : Text.isBlank c = false :=
    Text.isBlank_of_isDigit (Number.isDigit_of_mem_natDigits hc)
  rw [Number.intDigits] at hc
  split at hc
  · rcases List.mem_cons.mp hc with rfl | hc
    · rfl
    · exact hdigits hc
  · exact hdigits hc

theorem read?_text (i : Instant) :
    instant.read? i.text = (Instant.ofText? (i.write "+00:00".toList)).map .instant := by
  rw [read?, Instant.text, String.toList_ofList,
    Text.trim_eq_self fun c => Instant.isBlank_of_mem_write]

/-- The text of a value that was read is read as that value. -/
theorem read?_toText (hdouble : t ≠ .double) (hlist : t ≠ .list) (h : t.read? raw = some w)
    (hyear : w.HasPlainYear) : t.read? w.toText = some w := by
  cases t <;> simp only [read?, Option.map_eq_some_iff, Option.some.injEq] at h
  case list => exact absurd rfl hlist
  case double => exact absurd rfl hdouble
  case text =>
    rw [← h, Value.toText, read?, headD_listItems]
  case instant =>
    obtain ⟨i, -, rfl⟩ := h
    rw [Value.toText, read?_text, Instant.ofText?_write (hyear i rfl), Option.map_some]
  case integer =>
    obtain ⟨i, -, rfl⟩ := h
    rw [Value.toText, read?, String.toList_ofList, trim_intDigits, Number.signed?_intDigits,
      Option.map_some]
  case bool =>
    obtain ⟨b, -, rfl⟩ := h
    cases b <;> rfl
  case url => rw [← h, Value.toText, read?]

/-- A value that was turned into one of a type is left alone when it is turned into one of that type
again, unless it is an instant in a year without four digits : then it is refused. -/
theorem coerce_coerce_iff (ht : t ≠ .double) (h : t.coerce v = .ok w) :
    (t.coerce w = .ok w ↔ w.HasPlainYear) ∧
    (¬ w.HasPlainYear → t.coerce w = .error ⟨w.toText, t⟩) ∧
    (t ≠ .list → t.decode w.toText = t.coerce w) := by
  have htype := type_of_coerce h
  by_cases hlist : t = .list
  · subst hlist
    cases w with
    | list items =>
      have hplain : (Value.list items).HasPlainYear := fun i hi => by cases hi
      exact ⟨iff_of_true rfl hplain, fun hnot => absurd hplain hnot, fun hne => absurd rfl hne⟩
    | _ => cases htype
  · have hcoerce : t.coerce w = t.decode w.toText := coerce_of_type_ne hlist (htype ▸ hlist)
    obtain ⟨raw, hread⟩ := exists_read?_of_coerce hlist h
    have hlate (hnot : ¬ w.HasPlainYear) : t.coerce w = .error ⟨w.toText, t⟩ := by
      obtain ⟨i, rfl, hi⟩ : ∃ i, w = .instant i ∧ ¬ i.HasPlainYear := by
        simpa [Value.HasPlainYear] using hnot
      obtain rfl : ValueType.instant = t := htype
      rw [hcoerce]
      exact decode_eq_error (by
        rw [Value.toText, read?_text, Instant.ofText?_write_eq_none hi, Option.map_none])
    refine ⟨⟨fun hok => ?_, fun hplain => ?_⟩, hlate, fun _ => hcoerce.symm⟩
    · by_contra hnot
      rw [hlate hnot] at hok
      cases hok
    · rw [hcoerce]
      exact decode_eq_ok_iff.mpr (read?_toText ht hlist hread hplain)

/-- A leap second is read back. -/
theorem coerce_coerce_leapSecond : ∃ i : Instant,
    ValueType.instant.coerce (.text "1990-05-17T23:59:60.25Z") = .ok (.instant i) ∧
      1000000000 ≤ i.nano ∧ ValueType.instant.coerce (.instant i) = .ok (.instant i) := by
  have hread : ValueType.instant.coerce (.text "1990-05-17T23:59:60.25Z") =
      .ok (.instant ⟨⟨1990, 5, 17⟩, 86399, 1250000000, by decide, by decide⟩) := by
    rfl
  refine ⟨_, hread, by decide, (coerce_coerce_iff (by decide) hread).1.mpr ?_⟩
  rintro _ ⟨⟩
  exact ⟨by decide, by decide⟩

/-- The last second of the year 9999 an hour west of Greenwich, as it is in UTC. -/
def lastSecond : Instant :=
  ⟨⟨10000, 1, 1⟩, 3599, 0, by decide, by decide⟩

/-- It is read, but not read back from its text. -/
theorem not_coerce_coerce_lastSecond :
    ValueType.instant.coerce (.text "9999-12-31T23:59:59-01:00") = .ok (.instant lastSecond) ∧
    ValueType.instant.coerce (.instant lastSecond) =
      .error ⟨"+10000-01-01T00:59:59+00:00", .instant⟩ := by
  have hread : Instant.ofText? (Text.trim "9999-12-31T23:59:59-01:00".toList) =
      some lastSecond := by
    decide +kernel
  have htext : lastSecond.text = "+10000-01-01T00:59:59+00:00" := by decide
  have hlate : ¬ lastSecond.HasPlainYear := fun h => absurd h.2 (by decide)
  constructor
  · rw [coerce_of_type_ne (by decide) (by decide), decode_eq_ok_iff]
    rw [Value.toText, read?, hread, Option.map_some]
  · rw [coerce_of_type_ne (by decide) (by decide), Value.toText, decode_eq_error, htext]
    rw [read?_text, Instant.ofText?_write_eq_none hlate, Option.map_none]

end ValueType

end ContactGraph
