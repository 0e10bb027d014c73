import ContactGraph.Proofs.Filter.Leaves

/-!
# Restrictions say what filters mean

`restriction` turns a filter into an expression about the contact of a query.
`isTrue_restriction_iff` : over every store the expression is true of a contact just when the
contact meets the filter. The proof follows the filter. A condition on a plain field finds what is
at the end of a chain (`fieldMatches_plain_iff`), and one on membership takes one step to a number
(`isTrue_step_to_number_iff`); the parts of an intersection or a union share one counter, and since
only the contact is bound outside of their groups, it does not matter where the counter stands.
-/

namespace ContactGraph.Query

open Vocabulary

variable {s : Scope} {T : Store} {c : Iri} {n n' : Nat} {e : Expr}

/-! ## Leaves -/

/-- A plain field has a value that matches when its chain leads to one whose text does. -/
theorem fieldMatches_plain_iff {d : DetailDefinition} {f : FieldDefinition} {v : Value}
    {flags : MatchFlags} (hmap : f.withoutMapping = false) (hallowed : f.allowed = [])
    (hinst : f.instances = []) :
    T.FieldMatches s d f c v flags ↔ ∃ x, T.Path (d.fullChain ++ f.chain) (.resource c) x ∧
      ∃ w ∈ wantedTexts v, flags.Matches x.str w := by
  simp [Store.FieldMatches, Store.HasValue, FieldDefinition.MayMatch, hmap, hallowed, hinst]

/-- The expression of a plain condition is true when the field has a matching value. -/
theorem isTrue_detailMatch_iff {filter : DetailFilter} (hf : filter.IsPlain s.schema)
    (h : detailMatch s filter n = .ok (e, n')) :
    T.IsTrue (Valuation.contact c) e ↔ Filter.Meets T s c (.detail filter) := by
  obtain ⟨v, hv, htype⟩ := hf.value
  obtain ⟨d, name, f, hd, hname, hfield, hmap, hallowed, hinst, hsub⟩ := hf.field
  have hcompared : d.comparedFields filter.field = [f] := by
    simp [DetailDefinition.comparedFields, hname, hfield]
  have hmatches := @fieldMatches_plain_iff s T c d f v filter.flags hmap hallowed hinst
  rw [isTrue_detailMatch_iff_finds hf.not_phone hf.not_type (.inr hf.not_context) hv htype h]
  constructor
  · intro hfinds
    cases hfinds with
    | free hnone => rw [hd] at hnone; cases hnone
    | field hd' hf' _ hmatch =>
      obtain rfl := Option.some.inj (hd.symm.trans hd')
      obtain rfl := List.mem_singleton.mp (hcompared ▸ hf')
      obtain ⟨x, hpath, w, hw, htext⟩ := hmatches.mp hmatch
      exact .detail hd hname hfield hv hpath hw htext
    | subType hd' hf' hsub' =>
      obtain rfl := Option.some.inj (hd.symm.trans hd')
      obtain rfl := List.mem_singleton.mp (hcompared ▸ hf')
      rw [hsub] at hsub'
      cases hsub'
  · intro hmeets
    cases hmeets with
    | detail hd' hname' hfield' hv' hpath hw htext =>
      obtain rfl := Option.some.inj (hd.symm.trans hd')
      obtain rfl := Option.some.inj (hname.symm.trans hname')
      obtain rfl := Option.some.inj (hfield.symm.trans hfield')
      obtain rfl := Option.some.inj (hv.symm.trans hv')
      have hmem : f ∈ d.comparedFields filter.field := hcompared ▸ List.mem_singleton_self f
      exact .field hd hmem hsub (hmatches.mpr ⟨_, hpath, _, hw, htext⟩)

/-- One step from the contact to a node with a number. -/
theorem isTrue_step_to_number_iff (p : Property) (id : LocalId) :
    T.IsTrue (Valuation.contact c) (.holds [step contactVar p (.numbered (n + 1)),
        .filter (.binary (Expr.idOf (.var (.numbered (n + 1)))) .eq (.integer id.toNat))]) ↔
      ∃ x, T.Step p (.resource c) x ∧ T.number? x = some id := by
  have hwalk := isTrue_holds_from_contact_iff (T := T) (c := c) (n := n) [p]
    (e := .binary (Expr.idOf (.var (.numbered (n + 1)))) .eq (.integer id.toNat))
    (P := fun x => T.number? x = some id) fun γ x hx => by
      rw [Store.isTrue_idOf_eq, show γ (.numbered (n + 1)) = some x from hx, Option.bind_some]
  simpa [Store.Path] using hwalk

theorem isTrue_inGroup_iff {id : LocalId} :
    T.IsTrue (Valuation.contact c) (inGroup id n).1 ↔
      ∃ g, T.Edge (.resource c) Nco.belongsToGroup g ∧ T.number? g = some id :=
  isTrue_step_to_number_iff { iri := Nco.belongsToGroup } id

theorem isTrue_hasMember_iff {id : LocalId} :
    T.IsTrue (Valuation.contact c) (hasMember id n).1 ↔
      ∃ m, T.Edge m Nco.belongsToGroup (.resource c) ∧ T.number? m = some id :=
  isTrue_step_to_number_iff { iri := Nco.belongsToGroup, inverse := true } id

theorem meets_relationship_iff {filter : RelationshipFilter} :
    Filter.Meets T s c (.relationship filter) ↔
      (filter.type = Relationship.hasMember ∧
        ∀ manager, filter.manager = some manager → manager = s.settings.managerUri) ∧
      ((filter.role ≠ .second ∧ ∃ g, T.Edge (.resource c) Nco.belongsToGroup g ∧
          T.number? g = some filter.contact) ∨
        (filter.role ≠ .first ∧ ∃ m, T.Edge m Nco.belongsToGroup (.resource c) ∧
          T.number? m = some filter.contact)) := by
  constructor
  · intro h
    cases h with
    | group htype hown hrole hedge hnumber =>
      exact ⟨⟨htype, hown⟩, .inl ⟨hrole, _, hedge, hnumber⟩⟩
    | member htype hown hrole hedge hnumber =>
      exact ⟨⟨htype, hown⟩, .inr ⟨hrole, _, hedge, hnumber⟩⟩
  · rintro ⟨⟨htype, hown⟩, ⟨hrole, g, hedge, hnumber⟩ | ⟨hrole, m, hedge, hnumber⟩⟩
    · exact .group htype hown hrole hedge hnumber
    · exact .member htype hown hrole hedge hnumber

/-- Another relationship, or one of another manager, is none of this store. -/
theorem isForeign_iff {filter : RelationshipFilter} (own : String) :
    (decide (filter.type ≠ Relationship.hasMember) || filter.manager.any (· ≠ own)) = true ↔
      ¬(filter.type = Relationship.hasMember ∧
        ∀ manager, filter.manager = some manager → manager = own) := by
  cases filter.manager with
  | none => simp
  | some manager => simp [imp_iff_not_or]

/-- The expression of a condition on membership is true when there is such an edge. -/
theorem isTrue_relationshipMatch_iff {filter : RelationshipFilter} :
    T.IsTrue (Valuation.contact c) (relationshipMatch s filter n).1 ↔
      Filter.Meets T s c (.relationship filter) := by
  rw [meets_relationship_iff, relationshipMatch]
  split
  · rename_i hforeign
    rw [show ((pure (Expr.bool false) : Fresh Expr) n).1 = .bool false from rfl,
      Store.isTrue_bool]
    exact iff_of_false Bool.false_ne_true fun h => (isForeign_iff _).mp hforeign h.1
  · rename_i hlocal
    have hown := Decidable.not_not.mp (mt (isForeign_iff _).mpr hlocal)
    rw [and_iff_right hown]
    cases hrole : filter.role with
    | first => simpa using isTrue_inGroup_iff
    | second => simpa using isTrue_hasMember_iff
    | either =>
      rw [show ((do
          let group ← inGroup filter.contact
          let member ← hasMember filter.contact
          pure (Expr.any [group, member]) : Fresh Expr) n).1 =
        Expr.any [(inGroup filter.contact n).1, (hasMember filter.contact (n + 1)).1] from rfl]
      simp [Store.isTrue_any, isTrue_inGroup_iff, isTrue_hasMember_iff]

/-! ## Filters -/

/-- The expressions of filters are all true of a contact when it meets all filters, and some of them
is when it meets some filter. -/
theorem isTrue_restrictions_iff {filters : List Filter} {es : List Expr}
    (ih : ∀ f ∈ filters, ∀ {n n' : Nat} {e : Expr}, restriction s f n = .ok (e, n') →
      (T.IsTrue (Valuation.contact c) e ↔ f.Meets T s c))
    (h : restrictions s filters n = .ok (es, n')) :
    ((∀ e ∈ es, T.IsTrue (Valuation.contact c) e) ↔ ∀ f ∈ filters, f.Meets T s c) ∧
      ((∃ e ∈ es, T.IsTrue (Valuation.contact c) e) ↔ ∃ f ∈ filters, f.Meets T s c) := by
  induction filters generalizing n n' es with
  | nil =>
    simp only [restrictions, Attempt.pure_eq_ok_iff, Prod.mk.injEq] at h
    obtain ⟨rfl, -⟩ := h
    simp
  | cons f fs ihs =>
    simp only [restrictions, Attempt.bind_eq_ok_iff, Attempt.pure_eq_ok_iff, Prod.mk.injEq] at h
    obtain ⟨e, m, he, es', m', hes, rfl, -⟩ := h
    have hhead := ih f List.mem_cons_self he
    obtain ⟨hall, hany⟩ := ihs (fun g hg => ih g (List.mem_cons_of_mem _ hg)) hes
    constructor
    · rw [List.forall_mem_cons, List.forall_mem_cons, hhead, hall]
    · simp only [List.mem_cons, exists_eq_or_imp, hhead, hany]

/-- The expression of a filter is true of a contact just when the contact meets the filter. -/
theorem isTrue_restriction_iff (T : Store) (c : Iri) {filter : Filter}
    (hf : filter.Covered s.schema) (h : restriction s filter n = .ok (e, n')) :
    T.IsTrue (Valuation.contact c) e ↔ filter.Meets T s c := by
  induction hf generalizing n n' e with
  | everything =>
    simp only [restriction, Attempt.pure_eq_ok_iff, Prod.mk.injEq] at h
    rw [← h.1, Store.isTrue_bool]
    exact iff_of_true rfl .everything
  | nothing =>
    simp only [restriction, Attempt.pure_eq_ok_iff, Prod.mk.injEq] at h
    rw [← h.1, Store.isTrue_bool]
    exact iff_of_false Bool.false_ne_true nofun
  | ids ids =>
    cases ids with
    | nil =>
      rw [restriction] at h
      exact absurd h reject_ne_ok
    | cons id ids =>
      simp only [restriction, Attempt.pure_eq_ok_iff, Prod.mk.injEq] at h
      rw [← h.1, Store.isTrue_idIn, contact_contactVar]
      constructor
      · rintro ⟨i, hi, hnumber⟩
        exact .ids hi hnumber
      · intro hmeets
        cases hmeets with
        | ids hi hnumber => exact ⟨_, hi, hnumber⟩
  | detail hplain =>
    rw [restriction] at h
    exact isTrue_detailMatch_iff hplain h
  | relationship filter =>
    rw [restriction, accept_eq_ok_iff] at h
    rw [← isTrue_relationshipMatch_iff (n := n), h]
  | intersection _ ih =>
    simp only [restriction, Attempt.bind_eq_ok_iff, Attempt.pure_eq_ok_iff, Prod.mk.injEq] at h
    obtain ⟨es, m, hes, rfl, -⟩ := h
    rw [Store.isTrue_all, (isTrue_restrictions_iff ih hes).1]
    refine ⟨.intersection, fun hmeets => ?_⟩
    cases hmeets with
    | intersection hall => exact hall
  | union _ ih =>
    simp only [restriction, Attempt.bind_eq_ok_iff, Attempt.pure_eq_ok_iff, Prod.mk.injEq] at h
    obtain ⟨es, m, hes, rfl, -⟩ := h
    rw [Store.isTrue_any, (isTrue_restrictions_iff ih hes).2]
    constructor
    · rintro ⟨f, hmem, hmeets⟩
      exact .union hmem hmeets
    · intro hmeets
      cases hmeets with
      | union hmem hmeets => exact ⟨_, hmem, hmeets⟩

/-- Groups whose members are told by their nicknames. -/
def memberScope : Scope :=
  { schema := {
      type := .group
      details := [{
        name := Names.nickname, unique := false, dependencies := []
        chain := [{ iri := Nco.belongsToGroup, inverse := true }]
        fields := [
          { name := Names.nickname, type := .text, chain := [{ iri := Nco.nickname }] }] }] }
    settings := {}
    ids := {} }

/-- A group with the number 3 and one member, Anna, with the number 7. -/
def memberStore : Store :=
  { triples := [
      ⟨.resource "anna", Nco.belongsToGroup, .resource "team", none⟩,
      ⟨.resource "anna", Nco.nickname, .text "Anna", none⟩]
    number := fun iri => if iri = "team" then some 3 else if iri = "anna" then some 7 else none }

/-- Group 3 with a member that has `nn` in the nickname, in it or having number 7 in it. -/
def memberFilter : Filter :=
  .intersection [.ids [3],
    .fieldIs Names.nickname Names.nickname (.text "NN") ⟨.contains, false⟩,
    .union [.hasMember 3 .first, .hasMember 7 .second]]

/-- The team meets the filter, so the expression of the filter is true of it. -/
theorem isTrue_restriction_member :
    ∃ e n, restriction memberScope memberFilter 0 = .ok (e, n) ∧
      memberStore.IsTrue (Valuation.contact "team") e := by
  obtain ⟨e, n, h⟩ : ∃ e n, restriction memberScope memberFilter 0 = .ok (e, n) := ⟨_, _, rfl⟩
  refine ⟨e, n, h, (isTrue_restriction_iff memberStore "team" ?_ h).mpr ?_⟩
  · refine .intersection ?_
    simp only [List.forall_mem_cons, List.not_mem_nil, false_imp_iff, implies_true, and_true]
    refine ⟨.ids _, .detail ?_, .union ?_⟩
    · exact {
        not_type := by decide
        not_context := by decide
        not_phone := by decide
        value := ⟨_, rfl, .inl rfl⟩
        field := ⟨_, _, _, rfl, rfl, rfl, rfl, rfl, rfl, rfl⟩ }
    · simp only [List.forall_mem_cons, List.not_mem_nil, false_imp_iff, implies_true, and_true]
      exact ⟨.relationship _, .relationship _⟩
  · refine .intersection ?_
    simp only [List.forall_mem_cons, List.not_mem_nil, false_imp_iff, implies_true, and_true]
    refine ⟨.ids List.mem_cons_self rfl, ?_, .union (List.mem_cons_of_mem _ List.mem_cons_self) ?_⟩
    · have hwanted : "NN" ∈ wantedTexts (.text "NN") := by decide
      refine .detail rfl rfl rfl rfl (x := .text "Anna") ?_ hwanted (by decide)
      exact ⟨.resource "anna", by decide, .text "Anna", by decide, rfl⟩
    · exact .member rfl nofun nofun (m := .resource "anna") (by decide) rfl

end ContactGraph.Query
