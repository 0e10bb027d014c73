import ContactGraph.Proofs.Filter.Restriction
import ContactGraph.Proofs.Query.Refusal

/-!
# Lists as values of conditions

The value of a condition can be a list. It stands for any of its items where texts are compared and
where sub-types are chosen, in fields of a definition and in details without one, as long as the
store holds no value that a field does not allow (`DetailFilter.Finds.list`,
`DetailFilter.Finds.of_list`). Where a value is compared by its text as a whole, the items are
joined, and the text of two items is not that of one (`DetailFilter.JoinsItems`) : a condition on a
gender that is one of two finds nobody (`not_isTrue_maleOrFemale`). A list of one item is always
that item (`detailMatch_singleton`). `isTrue_restriction_list` puts these together.
-/

namespace ContactGraph

open Query Vocabulary

namespace DetailFilter

/-- The condition with a value. -/
def withValue (filter : DetailFilter) (v : Value) : DetailFilter :=
  { filter with value := some v }

@[simp] theorem withValue_field (filter : DetailFilter) (v : Value) :
    (filter.withValue v).field = filter.field :=
  rfl

@[simp] theorem withValue_value (filter : DetailFilter) (v : Value) :
    (filter.withValue v).value = some v :=
  rfl

@[simp] theorem withValue_flags (filter : DetailFilter) (v : Value) :
    (filter.withValue v).flags = filter.flags :=
  rfl

/-- The items of a list are joined before they are compared : with the contact type, the context of
a detail, or the labels of instances. -/
def JoinsItems (schema : Schema) (filter : DetailFilter) : Prop :=
  filter.detail = Names.type ∨ ∃ d, schema.detail? filter.detail = some d ∧
    (filter.field = some Names.context ∨
      ∃ f ∈ d.comparedFields filter.field, f.subTypes = none ∧ f.instances ≠ [])

/-- A contact has a value in a field that the condition compares, its text matches an item, and the
field does not allow it. -/
def FindsForbidden (T : Store) (schema : Schema) (c : Iri) (filter : DetailFilter)
    (items : List String) : Prop :=
  ∃ d f x, schema.detail? filter.detail = some d ∧ f ∈ d.comparedFields filter.field ∧
    T.HasValue d f c x ∧ (∃ w ∈ items, filter.flags.Matches x.str w) ∧ f.allows x.str = false

end DetailFilter

variable {T : Store} {s : Scope} {c : Iri} {filter : DetailFilter} {d : DetailDefinition}
  {f : FieldDefinition} {ws : List String} {w : String} {v v' : Value} {flags : MatchFlags}

/-! ## What lists find -/

namespace Store

/-- A field without instances has a value that matches a list when it has one that matches an
item. -/
theorem FieldMatches.list (hinst : f.instances = []) (hw : w ∈ ws)
    (h : T.FieldMatches s d f c (.text w) flags) : T.FieldMatches s d f c (.list ws) flags := by
  obtain ⟨hmay, x, hx, hmatch⟩ := h
  rw [if_pos hinst] at hmatch
  obtain ⟨w', hw', hmatch⟩ := hmatch
  obtain rfl : w' = w := List.mem_singleton.mp hw'
  refine ⟨hmay.imp id ?_, x, hx, ?_⟩
  · rintro ⟨text, htext, w'', hw'', htexts⟩
    obtain rfl : w'' = w' := List.mem_singleton.mp hw''
    exact ⟨text, htext, w'', hw, htexts⟩
  · rw [if_pos hinst]
    exact ⟨w', hw, hmatch⟩

/-- A field without instances that has a value that matches a list has one that matches an item, or
one that it does not allow. -/
theorem FieldMatches.of_list (hinst : f.instances = [])
    (h : T.FieldMatches s d f c (.list ws) flags) :
    (∃ w ∈ ws, T.FieldMatches s d f c (.text w) flags) ∨
      ∃ x, T.HasValue d f c x ∧ (∃ w ∈ ws, flags.Matches x.str w) ∧ f.allows x.str = false := by
  obtain ⟨-, x, hx, hmatch⟩ := h
  rw [if_pos hinst] at hmatch
  obtain ⟨w, hw, hmatch⟩ := hmatch
  cases hallows : f.allows x.str with
  | false => exact .inr ⟨x, hx, ⟨w, hw, hmatch⟩, hallows⟩
  | true =>
    have hmay : f.MayMatch (.text w) flags := by
      simp only [FieldDefinition.allows, Bool.or_eq_true, List.isEmpty_iff,
        List.contains_iff_mem] at hallows
      exact hallows.imp id fun hmem => ⟨x.str, hmem, w, List.mem_singleton_self w, hmatch⟩
    refine .inl ⟨w, hw, hmay, x, hx, ?_⟩
    rw [if_pos hinst]
    exact ⟨w, List.mem_singleton_self w, hmatch⟩

/-- A contact has a detail of a sub-type that matches a list when it has one of a sub-type that
matches an item. -/
theorem subTypeMatches_list_iff (types : SubTypes) :
    T.SubTypeMatches d f c (.list ws) flags types ↔
      ∃ w ∈ ws, T.SubTypeMatches d f c (.text w) flags types := by
  have hitem : ∀ label : String, (∃ w ∈ wantedTexts (.list ws), flags.Matches label w) ↔
      ∃ w ∈ ws, ∃ w' ∈ wantedTexts (.text w), flags.Matches label w' := by
    simp [wantedTexts, Value.toText]
  cases types <;> simp only [SubTypeMatches, hitem]
  all_goals
    constructor
    · rintro ⟨t, ht, ⟨w, hw, hmatch⟩, h⟩
      exact ⟨w, hw, t, ht, hmatch, h⟩
    · rintro ⟨w, hw, t, ht, hmatch, h⟩
      exact ⟨t, ht, ⟨w, hw, hmatch⟩, h⟩

end Store

namespace DetailFilter

theorem instances_eq_nil (hjoins : ¬ filter.JoinsItems s.schema)
    (hd : s.schema.detail? filter.detail = some d) (hf : f ∈ d.comparedFields filter.field)
    (htypes : f.subTypes = none) : f.instances = [] := by
  by_contra hinst
  exact hjoins (.inr ⟨d, hd, .inr ⟨f, hf, htypes, hinst⟩⟩)

/-- What a condition finds depends on the value that it is asked about. -/
theorem finds_withValue_iff (filter : DetailFilter) (v v' : Value) :
    (filter.withValue v).Finds T s c v' ↔ filter.Finds T s c v' := by
  constructor
  · intro h
    cases h with
    | free hnone hx hw hmatch => exact .free hnone hx hw hmatch
    | field hd hf htypes hmatch => exact .field hd hf htypes hmatch
    | subType hd hf htypes hmatch => exact .subType hd hf htypes hmatch
  · intro h
    cases h with
    | free hnone hx hw hmatch => exact .free hnone hx hw hmatch
    | field hd hf htypes hmatch => exact .field hd hf htypes hmatch
    | subType hd hf htypes hmatch => exact .subType hd hf htypes hmatch

/-- A condition with a list finds what it finds with an item. -/
theorem Finds.list (hjoins : ¬ filter.JoinsItems s.schema) (hw : w ∈ ws)
    (h : filter.Finds T s c (.text w)) : filter.Finds T s c (.list ws) := by
  cases h with
  | free hnone hx hw' hmatch =>
    obtain rfl := List.mem_singleton.mp hw'
    exact .free hnone hx hw hmatch
  | field hd hf htypes hmatch =>
    exact .field hd hf htypes (hmatch.list (instances_eq_nil hjoins hd hf htypes) hw)
  | subType hd hf htypes hmatch =>
    exact .subType hd hf htypes ((Store.subTypeMatches_list_iff _).mpr ⟨w, hw, hmatch⟩)

/-- What a condition with a list finds it finds with an item, or the store holds what a field does
not allow. -/
theorem Finds.of_list (hjoins : ¬ filter.JoinsItems s.schema) (h : filter.Finds T s c (.list ws)) :
    (∃ w ∈ ws, filter.Finds T s c (.text w)) ∨ FindsForbidden T s.schema c filter ws := by
  cases h with
  | free hnone hx hw hmatch =>
    exact .inl ⟨_, hw, .free hnone hx (List.mem_singleton_self _) hmatch⟩
  | field hd hf htypes hmatch =>
    rcases hmatch.of_list (instances_eq_nil hjoins hd hf htypes) with
      ⟨w, hw, hmatch⟩ | ⟨x, hx, hallows⟩
    · exact .inl ⟨w, hw, .field hd hf htypes hmatch⟩
    · exact .inr ⟨_, _, x, hd, hf, hx, hallows⟩
  | subType hd hf htypes hmatch =>
    obtain ⟨w, hw, hmatch⟩ := (Store.subTypeMatches_list_iff _).mp hmatch
    exact .inl ⟨w, hw, .subType hd hf htypes hmatch⟩

end DetailFilter

/-! ## Expressions of conditions -/

namespace Query

variable {n n' : Nat} {e : Expr}

/-- A condition that is accepted with one value is accepted with any. -/
theorem exists_detailMatch_eq_ok {r : Expr × Nat}
    (h : detailMatch s (filter.withValue v) n = .ok r) (v' : Value) :
    ∃ r', detailMatch s (filter.withValue v') n = .ok r' := by
  have haccepted : ∀ e, detailMatch s (filter.withValue v') n ≠ .error e := by
    intro e he
    have hfault : (Filter.detail (filter.withValue v)).Fault s.schema e := by
      obtain - | ⟨htype, hd, hfield⟩ := detailMatch_eq_error_iff.mp he
      exact .detail htype hd hfield
    rw [detailMatch_eq_error_iff.mpr hfault] at h
    cases h
  obtain ⟨a, m, hok⟩ := Attempt.exists_eq_ok_of_ne_error haccepted
  exact ⟨(a, m), hok⟩

/-- The expression of a condition that joins no items is true when it finds its value. -/
theorem isTrue_withValue_iff (hmode : filter.flags.mode ≠ .phoneNumber)
    (hjoins : ¬ filter.JoinsItems s.schema) (hv : v.type = .text ∨ v.type = .list)
    (h : detailMatch s (filter.withValue v) n = .ok (e, n')) :
    T.IsTrue (Valuation.contact c) e ↔ filter.Finds T s c v := by
  have hcontext : s.schema.detail? filter.detail = none ∨ filter.field ≠ some Names.context := by
    cases hd : s.schema.detail? filter.detail with
    | none => exact .inl rfl
    | some d => exact .inr fun hfield => hjoins (.inr ⟨d, hd, .inl hfield⟩)
  refine (isTrue_detailMatch_iff_finds ?_ ?_ ?_ rfl hv h).trans
    (DetailFilter.finds_withValue_iff filter v v)
  · exact hmode
  · exact fun htype => hjoins (.inl htype)
  · exact hcontext

/-! ## Lists of one item -/

theorem toText_singleton (w : String) : (Value.list [w]).toText = (Value.text w).toText := by
  simp [Value.toText]

theorem fieldMatch_singleton (s : Scope) (d : DetailDefinition) (f : FieldDefinition) (w : String)
    (flags : MatchFlags) :
    fieldMatch s d f (.list [w]) flags = fieldMatch s d f (.text w) flags := by
  unfold fieldMatch phoneMatch matchingIds
  rw [toText_singleton]
  rfl

theorem fieldMatches_singleton (s : Scope) (d : DetailDefinition) (w : String) (flags : MatchFlags)
    (fs : List FieldDefinition) :
    fieldMatches s d (.list [w]) flags fs = fieldMatches s d (.text w) flags fs := by
  induction fs with
  | nil => rfl
  | cons f fs ih => rw [fieldMatches, fieldMatches, fieldMatch_singleton, ih]

theorem definedMatch_singleton (s : Scope) (d : DetailDefinition) (filter : DetailFilter)
    (w : String) : definedMatch s d (filter.withValue (.list [w])) =
      definedMatch s d (filter.withValue (.text w)) := by
  have hany : anyFieldMatch s d (some (.list [w])) filter.flags =
      anyFieldMatch s d (some (.text w)) filter.flags := by
    rw [anyFieldMatch, anyFieldMatch, fieldMatches_singleton]
  have hcontext : contextMatch d (some (.list [w])) = contextMatch d (some (.text w)) := by
    unfold contextMatch
    dsimp only
    rw [toText_singleton]
  have hone : ∀ f, oneFieldMatch s d f (some (.list [w])) filter.flags =
      oneFieldMatch s d f (some (.text w)) filter.flags := by
    intro f
    unfold oneFieldMatch
    cases f.subTypes with
    | none => exact fieldMatch_singleton s d f w filter.flags
    | some types => rfl
  unfold definedMatch
  simp only [DetailFilter.withValue_field, DetailFilter.withValue_value,
    DetailFilter.withValue_flags, hany, hcontext, hone]

/-- A list of one item is that item. -/
theorem detailMatch_singleton (s : Scope) (filter : DetailFilter) (w : String) :
    detailMatch s (filter.withValue (.list [w])) = detailMatch s (filter.withValue (.text w)) := by
  have htype : typeMatch s (some (.list [w])) = typeMatch s (some (.text w)) := by
    rw [typeMatch, typeMatch, toText_singleton]
  unfold detailMatch
  simp only [DetailFilter.withValue_value, htype, definedMatch_singleton]
  rfl

/-! ## Lists of any items -/

/-- A list as the value of a condition on a detail stands for any of its items. Where one of the
items finds something, so does the list, and a contact that the list finds is found with one of the
items, unless the store holds a value that the field does not allow. This goes for every field and
for details without definition, but not for a list of several items, or of none, that is compared by
its text as a whole. -/
theorem isTrue_restriction_list {s : Scope} {filter : DetailFilter} {ws : List String}
    (hmode : filter.flags.mode ≠ .phoneNumber)
    (hitems : ws.length = 1 ∨ ¬ filter.JoinsItems s.schema)
    (h : restriction s (.detail (filter.withValue (.list ws))) n = .ok (e, n')) (T : Store)
    (c : Iri) :
    ∃ es : String → Expr,
      (∀ w, ∃ m, restriction s (.detail (filter.withValue (.text w))) n = .ok (es w, m)) ∧
      ((∃ w ∈ ws, T.IsTrue (Valuation.contact c) (es w)) → T.IsTrue (Valuation.contact c) e) ∧
      (T.IsTrue (Valuation.contact c) e → (∃ w ∈ ws, T.IsTrue (Valuation.contact c) (es w)) ∨
        DetailFilter.FindsForbidden T s.schema c filter ws) := by
  simp only [restriction] at h ⊢
  choose r hr using fun w => exists_detailMatch_eq_ok h (.text w)
  refine ⟨fun w => (r w).1, fun w => ⟨(r w).2, hr w⟩, ?_⟩
  rcases hitems with hone | hjoins
  · obtain ⟨w, rfl⟩ := List.length_eq_one_iff.mp hone
    have hsame : (r w).1 = e := by
      rw [detailMatch_singleton, hr w] at h
      exact congrArg Prod.fst (Except.ok.inj h)
    simp only [List.mem_singleton, exists_eq_left, hsame]
    exact ⟨id, .inl⟩
  · have hlist : T.IsTrue (Valuation.contact c) e ↔ filter.Finds T s c (.list ws) :=
      isTrue_withValue_iff hmode hjoins (.inr rfl) h
    have hitem : ∀ w, T.IsTrue (Valuation.contact c) (r w).1 ↔ filter.Finds T s c (.text w) :=
      fun w => isTrue_withValue_iff hmode hjoins (.inl rfl) (hr w)
    simp only [hlist, hitem]
    exact ⟨fun ⟨w, hw, hfinds⟩ => hfinds.list hjoins hw, DetailFilter.Finds.of_list hjoins⟩

/-- A team with a member called `Anna` is found with a list of nicknames that has hers. -/
theorem isTrue_zedOrAnna : ∃ (filter : DetailFilter) (e : Expr) (n : Nat),
    filter.detail = Names.nickname ∧ filter.field = some Names.nickname ∧
      restriction memberScope (.detail (filter.withValue (.list ["Zed", "Anna"]))) 0 =
        .ok (e, n) ∧
      memberStore.IsTrue (Valuation.contact "team") e := by
  let filter : DetailFilter := { detail := Names.nickname, field := some Names.nickname }
  have hjoins : ¬ filter.JoinsItems memberScope.schema := by
    rintro (htype | ⟨d, hd, hcontext | ⟨f, hf, -, hinst⟩⟩)
    · exact absurd htype (by decide)
    · exact absurd hcontext (by decide)
    · cases hd
      cases List.mem_singleton.mp hf
      exact hinst rfl
  obtain ⟨e, n, h⟩ : ∃ e n,
      restriction memberScope (.detail (filter.withValue (.list ["Zed", "Anna"]))) 0 =
        .ok (e, n) := ⟨_, _, rfl⟩
  obtain ⟨es, hes, hlist, -⟩ :=
    isTrue_restriction_list (by decide) (.inr hjoins) h memberStore "team"
  obtain ⟨e', n', hAnna, htrue⟩ : ∃ e' n',
      restriction memberScope (.detail (filter.withValue (.text "Anna"))) 0 = .ok (e', n') ∧
        memberStore.IsTrue (Valuation.contact "team") e' := ⟨_, _, rfl, by decide +kernel⟩
  obtain ⟨m, hes⟩ := hes "Anna"
  rw [hes] at hAnna
  obtain ⟨rfl, -⟩ := Prod.mk.inj (Except.ok.inj hAnna)
  exact ⟨filter, e, n, rfl, rfl, h, hlist ⟨"Anna", by decide, htrue⟩⟩

/-- Persons with a gender, whose resources have the numbers 301 and 302. -/
def genderScope : Scope :=
  { schema := { type := .person, details := [Standard.gender] }
    settings := {}
    ids := (IdCache.insert {} Nco.genderMale 301).insert Nco.genderFemale 302 }

/-- Zed, who is male. -/
def genderStore : Store :=
  { triples := [⟨.resource "zed", Nco.gender, .resource Nco.genderMale, none⟩]
    number := fun iri => if iri = Nco.genderMale then some 301 else none }

/-- Zed is found as male, and not as one that is male or female. -/
theorem not_isTrue_maleOrFemale : ∃ (filter : DetailFilter) (e e' : Expr) (n n' : Nat),
    filter.detail = "Gender" ∧ filter.field = some "Gender" ∧
      restriction genderScope (.detail (filter.withValue (.text "Male"))) 0 = .ok (e, n) ∧
      restriction genderScope (.detail (filter.withValue (.list ["Male", "Female"]))) 0 =
        .ok (e', n') ∧
      genderStore.IsTrue (Valuation.contact "zed") e ∧
      ¬ genderStore.IsTrue (Valuation.contact "zed") e' :=
  ⟨{ detail := "Gender", field := some "Gender" }, _, _, _, _, rfl, rfl, rfl, rfl,
    by decide +kernel, by decide +kernel⟩

end Query

end ContactGraph
