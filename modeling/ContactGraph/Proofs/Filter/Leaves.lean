import ContactGraph.Proofs.Query.Attempt
import ContactGraph.Proofs.Query.Walk

/-!
# What conditions on details mean

A condition on a detail asks for a value of a field that it compares (`comparedFields`), and what
that comes to depends on the field. A value is where the chains of the detail and the field lead, or
a free property of the resource (`Store.HasValue`), and its text is compared, or for a field with
instances its number (`Store.FieldMatches`). Sub-types are compared by their labels, and then looked
for among the classes of the resource or the ways to it (`Store.SubTypeMatches`). Details without
definition are free properties of the contact (`Store.HasFree`). `DetailFilter.Finds` puts these
together, and says when the expression of a condition is true (`isTrue_detailMatch_iff_finds`).
-/

namespace ContactGraph

open Query Vocabulary

/-! ## Meanings -/

namespace FieldDefinition

/-- Some text that the field may have matches a text of a value. -/
def MayMatch (f : FieldDefinition) (v : Value) (flags : MatchFlags) : Prop :=
  f.allowed = [] ∨ ∃ text ∈ f.allowed, ∃ w ∈ wantedTexts v, flags.Matches text w

end FieldDefinition

namespace Store

/-- A resource has a free property with a value, of a name when one is given. -/
def HasProperty (T : Store) (r : Node) (name : Option String) (x : Node) : Prop :=
  ∃ p, T.Edge r Nao.hasProperty p ∧
    (∀ w, name = some w → T.Edge p Nao.propertyName (.text w)) ∧ T.Edge p Nao.propertyValue x

/-- A contact has a value in a field : where the chains lead, or a free property of the name of the
field. -/
def HasValue (T : Store) (d : DetailDefinition) (f : FieldDefinition) (c : Iri) (x : Node) : Prop :=
  if f.withoutMapping then
    ∃ r, T.Path d.fullChain (.resource c) r ∧ T.HasProperty r (some f.name) x
  else T.Path (d.fullChain ++ f.chain) (.resource c) x

/-- A contact has a value in a detail without definition : a free property of the detail has one of
the field, or of any. -/
def HasFree (T : Store) (detail : String) (field : Option String) (c : Iri) (x : Node) : Prop :=
  ∃ r, T.Edge (.resource c) Nao.hasProperty r ∧ T.Edge r Nao.propertyName (.text detail) ∧
    T.HasProperty r field x

/-- A contact has a value in a field that matches : its text does, or it is a known instance whose
label does. -/
def FieldMatches (T : Store) (s : Scope) (d : DetailDefinition) (f : FieldDefinition) (c : Iri)
    (v : Value) (flags : MatchFlags) : Prop :=
  f.MayMatch v flags ∧ ∃ x, T.HasValue d f c x ∧
    if f.instances = [] then ∃ w ∈ wantedTexts v, flags.Matches x.str w
    else ∃ i ∈ f.instances, flags.Matches i.label v.toText ∧
      ∃ id, s.ids.id? i.iri = some id ∧ T.number? x = some id

/-- A contact has a detail of a sub-type whose label matches : over its property, or with its
class. -/
def SubTypeMatches (T : Store) (d : DetailDefinition) (f : FieldDefinition) (c : Iri) (v : Value)
    (flags : MatchFlags) : SubTypes → Prop
  | .byProperty types => ∃ t ∈ types, (∃ w ∈ wantedTexts v, flags.Matches t.label w) ∧
      ∃ x, T.Path (lastOver t.iri (d.fullChain ++ f.chain)) (.resource c) x
  | .byClass types => ∃ t ∈ types, (∃ w ∈ wantedTexts v, flags.Matches t.label w) ∧
      ∃ x, T.Path d.fullChain (.resource c) x ∧ T.Edge x Rdf.type (.resource t.iri)

end Store

/-- The fields that a condition compares : the one of a name, or all that hold values of their
own. -/
def DetailDefinition.comparedFields (d : DetailDefinition) : Option String → List FieldDefinition
  | none => plainFields d
  | some name => (d.field? name).toList

/-- A condition on a detail finds a value of a contact. -/
inductive DetailFilter.Finds (T : Store) (s : Scope) (c : Iri) (filter : DetailFilter) (v : Value) :
    Prop
  /-- In a detail without definition. -/
  | free {x : Node} {w : String} (hnone : s.schema.detail? filter.detail = none)
      (hx : T.HasFree filter.detail filter.field c x) (hw : w ∈ wantedTexts v)
      (hmatch : filter.flags.Matches x.str w)
  /-- In a field that holds values of its own. -/
  | field {d : DetailDefinition} {f : FieldDefinition}
      (hd : s.schema.detail? filter.detail = some d) (hf : f ∈ d.comparedFields filter.field)
      (htypes : f.subTypes = none) (hmatch : T.FieldMatches s d f c v filter.flags)
  /-- In a field for sub-types. -/
  | subType {d : DetailDefinition} {f : FieldDefinition} {types : SubTypes}
      (hd : s.schema.detail? filter.detail = some d) (hf : f ∈ d.comparedFields filter.field)
      (htypes : f.subTypes = some types)
      (hmatch : T.SubTypeMatches d f c v filter.flags types)

namespace Query

variable {s : Scope} {T : Store} {c : Iri} {n n' : Nat} {e : Expr} {d : DetailDefinition}
  {f : FieldDefinition} {v : Value} {flags : MatchFlags}

/-! ## Ways to values -/

theorem contact_contactVar : Valuation.contact c contactVar = some (.resource c) :=
  if_pos rfl

theorem contact_numbered (k : Nat) : Valuation.contact c (.numbered k) = none :=
  if_neg Variable.noConfusion

/-- A walked chain from the contact with a condition on its target. -/
theorem isTrue_holds_from_contact_iff (chain : List Property) {P : Node → Prop}
    (he : ∀ γ x, γ (walk contactVar chain n).1.target = some x → (T.IsTrue γ e ↔ P x)) :
    T.IsTrue (Valuation.contact c) (.holds ((walk contactVar chain n).1.group ++ [.filter e])) ↔
      ∃ x, T.Path chain (.resource c) x ∧ P x :=
  isTrue_holds_walk_iff contact_contactVar (fun k _ => contact_numbered k) he

/-- A field with a chain of its own is reached along the chains of the detail and the field. -/
theorem reachField_eq {d : DetailDefinition} {f : FieldDefinition} (hf : f.withoutMapping = false) :
    (reachField d f n).1 =
      ⟨(walk contactVar (d.fullChain ++ f.chain) n).1.group,
        (walk contactVar (d.fullChain ++ f.chain) n).1.target⟩ := by
  rw [walk_append_group, walk_append_target, ← walk_snd contactVar d.fullChain n]
  simp only [reachField, hf]
  rfl

/-- The patterns that give a property its name, when there is one. -/
def nameOf (property : Variable) (name : Option String) : Group :=
  name.toList.map fun w => .triple (.var property) Nao.propertyName (Expr.text w)

theorem isTrue_holds_nameOf_iff {β : Valuation} {p : Variable} {x : Node} {g : Group}
    (hp : β p = some x) (name : Option String) :
    T.IsTrue β (.holds (nameOf p name ++ g)) ↔
      (∀ w, name = some w → T.Edge x Nao.propertyName (.text w)) ∧ T.IsTrue β (.holds g) := by
  cases name with
  | none => simp [nameOf]
  | some w => simpa [nameOf] using Store.isTrue_holds_text_iff hp

/-- The patterns of a free property with a group behind them are met when the resource has one of
the name, and a value of it is as the group says. -/
theorem isTrue_holds_property_iff {P : Node → Prop} {β : Valuation} {a p v : Variable} {r : Node}
    {g : Group} (ha : β a = some r) (hp : β p = none) (hv : β v = none) (hne : v ≠ p)
    (name : Option String)
    (hg : ∀ γ x, γ v = some x → (T.IsTrue γ (.holds g) ↔ P x)) :
    T.IsTrue β (.holds (edge a Nao.hasProperty p ::
        (nameOf p name ++ edge p Nao.propertyValue v :: g))) ↔
      ∃ x, T.HasProperty r name x ∧ P x := by
  have hfree : ∀ x, β.set p x v = none := fun x => by rw [Valuation.set_of_ne β x hne, hv]
  have hrest : ∀ x, T.IsTrue (β.set p x)
        (.holds (nameOf p name ++ edge p Nao.propertyValue v :: g)) ↔
      (∀ w, name = some w → T.Edge x Nao.propertyName (.text w)) ∧
        ∃ y, T.Edge x Nao.propertyValue y ∧ P y := by
    intro x
    rw [isTrue_holds_nameOf_iff (Valuation.set_self β p x),
      Store.isTrue_holds_edge_iff (Valuation.set_self β p x) (hfree x)]
    simp only [fun y => hg ((β.set p x).set v y) y (Valuation.set_self _ v y)]
  rw [Store.isTrue_holds_edge_iff ha hp]
  simp only [hrest, Store.HasProperty]
  constructor
  · rintro ⟨x, hx, hname, y, hy, h⟩
    exact ⟨y, ⟨x, hx, hname, hy⟩, h⟩
  · rintro ⟨y, ⟨x, hx, hname, hy⟩, h⟩
    exact ⟨x, hx, hname, y, hy, h⟩

theorem isTrue_freeProperty_iff {P : Node → Prop} {β : Valuation} {a : Variable} {r : Node}
    {name : String} (ha : β a = some r) (hfree : ∀ k, n < k → β (.numbered k) = none)
    (he : ∀ γ x, γ (freeProperty a name n).1.value = some x → (T.IsTrue γ e ↔ P x)) :
    T.IsTrue β (.holds ((freeProperty a name n).1.group ++ [.filter e])) ↔
      ∃ x, T.HasProperty r (some name) x ∧ P x :=
  isTrue_holds_property_iff ha (hfree (n + 1) (by omega)) (hfree (n + 2) (by omega)) (by simp)
    (some name) fun γ x hx => Store.isTrue_holds_filter_iff.trans (he γ x hx)

/-- The patterns of a field with a condition on the value are met when some value of the field is
as it should be. -/
theorem isTrue_reachField_iff {P : Node → Prop}
    (he : ∀ γ x, γ (reachField d f n).1.value = some x → (T.IsTrue γ e ↔ P x)) :
    T.IsTrue (Valuation.contact c) (.holds ((reachField d f n).1.group ++ [.filter e])) ↔
      ∃ x, T.HasValue d f c x ∧ P x := by
  unfold Store.HasValue
  cases hmap : f.withoutMapping with
  | false =>
    rw [reachField_eq hmap] at he ⊢
    exact isTrue_holds_from_contact_iff _ he
  | true =>
    have hreach : (reachField d f n).1 =
        ⟨(walk contactVar d.fullChain n).1.group ++
            (freeProperty (walk contactVar d.fullChain n).1.target f.name
              (n + d.fullChain.length)).1.group,
          (freeProperty (walk contactVar d.fullChain n).1.target f.name
            (n + d.fullChain.length)).1.value⟩ := by
      rw [← walk_snd contactVar d.fullChain n]
      simp only [reachField, hmap]
      rfl
    rw [hreach] at he ⊢
    rw [List.append_assoc, isTrue_holds_walk_append_iff contact_contactVar
      (fun k _ => contact_numbered k) fun γ r hr _ hfree => isTrue_freeProperty_iff hr hfree he]
    simp only [if_true]
    constructor
    · rintro ⟨r, hr, x, hx, h⟩
      exact ⟨x, ⟨r, hr, hx⟩, h⟩
    · rintro ⟨x, ⟨r, hr, hx⟩, h⟩
      exact ⟨r, hr, x, hx, h⟩

/-- The patterns of a detail without definition with a condition on the value are met when some
value of it is as it should be. -/
theorem isTrue_reachCustom_iff {P : Node → Prop} {detail : String} {field : Option String}
    (he : ∀ γ x, γ (reachCustom detail field n).1.value = some x → (T.IsTrue γ e ↔ P x)) :
    T.IsTrue (Valuation.contact c) (.holds ((reachCustom detail field n).1.group ++ [.filter e])) ↔
      ∃ x, T.HasFree detail field c x ∧ P x := by
  have hgroup : (reachCustom detail field n).1.group ++ [.filter e] =
      edge contactVar Nao.hasProperty (.numbered (n + 1)) ::
        .triple (.var (.numbered (n + 1))) Nao.propertyName (Expr.text detail) ::
        edge (.numbered (n + 1)) Nao.hasProperty (.numbered (n + 2)) ::
        (nameOf (.numbered (n + 2)) field ++
          edge (.numbered (n + 2)) Nao.propertyValue (.numbered (n + 3)) :: [.filter e]) := by
    cases field <;> rfl
  have hfree : ∀ r k, n + 1 < k →
      (Valuation.contact c).set (.numbered (n + 1)) r (.numbered k) = none := fun r k hk => by
    rw [Valuation.set_of_ne _ r (by simp; omega), contact_numbered]
  have hdetail : ∀ r, T.IsTrue ((Valuation.contact c).set (.numbered (n + 1)) r)
        (.holds (.triple (.var (.numbered (n + 1))) Nao.propertyName (Expr.text detail) ::
          edge (.numbered (n + 1)) Nao.hasProperty (.numbered (n + 2)) ::
          (nameOf (.numbered (n + 2)) field ++
            edge (.numbered (n + 2)) Nao.propertyValue (.numbered (n + 3)) :: [.filter e]))) ↔
      T.Edge r Nao.propertyName (.text detail) ∧ ∃ x, T.HasProperty r field x ∧ P x := fun r => by
    rw [Store.isTrue_holds_text_iff (Valuation.set_self _ _ r),
      isTrue_holds_property_iff (Valuation.set_self _ _ r) (hfree r _ (by omega))
        (hfree r _ (by omega)) (by simp) field fun γ x hx =>
          Store.isTrue_holds_filter_iff.trans (he γ x hx)]
  rw [hgroup, Store.isTrue_holds_edge_iff contact_contactVar (contact_numbered _)]
  constructor
  · rintro ⟨r, hr, h⟩
    obtain ⟨hname, x, hx, hP⟩ := (hdetail r).mp h
    exact ⟨x, ⟨r, hr, hname, hx⟩, hP⟩
  · rintro ⟨x, ⟨r, hr, hname, hx⟩, hP⟩
    exact ⟨r, hr, (hdetail r).mpr ⟨hname, x, hx, hP⟩⟩

/-! ## Fields -/

theorem isPossible_iff : isPossible f v flags = true ↔ f.MayMatch v flags := by
  simp [isPossible, FieldDefinition.MayMatch, List.any_eq_true, textMatches_iff]

theorem mem_matchingIds_iff {id : LocalId} : id ∈ matchingIds s f v flags ↔
    ∃ i ∈ f.instances, flags.Matches i.label v.toText ∧ s.ids.id? i.iri = some id := by
  simp [matchingIds, List.mem_filterMap, textMatches_iff, and_assoc]

/-- The expression for a field is true when the field has a value that matches. -/
theorem isTrue_fieldMatch_iff (hmode : flags.mode ≠ .phoneNumber)
    (hv : v.type = .text ∨ v.type = .list) :
    T.IsTrue (Valuation.contact c) (fieldMatch s d f v flags n).1 ↔
      T.FieldMatches s d f c v flags := by
  have hphone : (flags.mode = .phoneNumber && decide (d.name = Names.phoneNumber)) = false := by
    simp [hmode]
  unfold Store.FieldMatches fieldMatch
  rw [← isPossible_iff, hphone, if_neg Bool.false_ne_true]
  cases hpossible : isPossible f v flags with
  | false =>
    show T.IsTrue _ (.bool false) ↔ _
    simp [Store.isTrue_bool]
  | true =>
    rw [Bool.not_true, if_neg Bool.false_ne_true, and_iff_right rfl]
    by_cases hinst : f.instances = []
    · simp only [hinst, List.isEmpty_nil, if_true]
      exact isTrue_reachField_iff fun γ x hx => Store.isTrue_valueExpr hx hv flags
    · simp only [hinst, List.isEmpty_iff, if_false]
      have hids : (∃ x, T.HasValue d f c x ∧
            ∃ id ∈ matchingIds s f v flags, T.number? x = some id) ↔
          ∃ x, T.HasValue d f c x ∧ ∃ i ∈ f.instances, flags.Matches i.label v.toText ∧
            ∃ id, s.ids.id? i.iri = some id ∧ T.number? x = some id := by
        simp only [mem_matchingIds_iff]
        refine exists_congr fun x => and_congr_right fun _ => ?_
        constructor
        · rintro ⟨id, ⟨i, hi, hlabel, hid⟩, hnumber⟩
          exact ⟨i, hi, hlabel, id, hid, hnumber⟩
        · rintro ⟨i, hi, hlabel, id, hid, hnumber⟩
          exact ⟨id, ⟨i, hi, hlabel, hid⟩, hnumber⟩
      rw [← hids]
      cases hmatching : matchingIds s f v flags with
      | nil =>
        show T.IsTrue _ (.bool false) ↔ _
        simp [Store.isTrue_bool]
      | cons id ids =>
        show T.IsTrue _ (.holds ((reachField d f n).1.group ++
          [.filter (idIn (reachField d f n).1.value (id :: ids))])) ↔ _
        refine isTrue_reachField_iff fun γ x hx => ?_
        rw [Store.isTrue_idIn, hx, Option.bind_some]

/-- The expressions for several fields are true as far as the fields have values that match. -/
theorem exists_isTrue_fieldMatches_iff (hmode : flags.mode ≠ .phoneNumber)
    (hv : v.type = .text ∨ v.type = .list) (fs : List FieldDefinition) :
    (∃ e ∈ (fieldMatches s d v flags fs n).1, T.IsTrue (Valuation.contact c) e) ↔
      ∃ f ∈ fs, T.FieldMatches s d f c v flags := by
  induction fs generalizing n with
  | nil =>
    show (∃ e ∈ [], _) ↔ _
    simp
  | cons f fs ih =>
    show (∃ e ∈ (fieldMatch s d f v flags n).1 :: (fieldMatches s d v flags fs _).1, _) ↔ _
    rw [List.exists_mem_cons_iff, List.exists_mem_cons_iff, isTrue_fieldMatch_iff hmode hv, ih]

/-! ## Sub-types -/

theorem mem_selectedTypes_iff {types : List Labelled} {t : Labelled} :
    t ∈ selectedTypes types v flags ↔ t ∈ types ∧ ∃ w ∈ wantedTexts v, flags.Matches t.label w := by
  simp [selectedTypes, List.mem_filter, List.any_eq_true, textMatches_iff]

/-- The expressions for ways to a resource are true as far as the ways lead anywhere. -/
theorem exists_isTrue_propertyMatches_iff (types : List Labelled) :
    (∃ e ∈ (propertyMatches d f types n).1, T.IsTrue (Valuation.contact c) e) ↔
      ∃ t ∈ types, ∃ x, T.Path (lastOver t.iri (d.fullChain ++ f.chain)) (.resource c) x := by
  induction types generalizing n with
  | nil =>
    show (∃ e ∈ [], _) ↔ _
    simp
  | cons t ts ih =>
    show (∃ e ∈ Expr.holds (walk contactVar (lastOver t.iri (d.fullChain ++ f.chain)) n).1.group ::
      (propertyMatches d f ts _).1, _) ↔ _
    rw [List.exists_mem_cons_iff, List.exists_mem_cons_iff, ih,
      isTrue_holds_walk_group_iff contact_contactVar fun k _ => contact_numbered k]

theorem isTrue_isIn_iff {γ : Valuation} {y : Variable} {x : Node} (hx : γ y = some x)
    (types : List Labelled) :
    T.IsTrue γ (.isIn (.var y) (types.map fun t => .iri t.iri)) ↔
      ∃ t ∈ types, x = .resource t.iri := by
  simp only [Store.IsTrue, Store.value, Store.memberOf_eq_true, Store.values_eq_map, hx,
    List.map_map, List.mem_map, Function.comp, Option.some.injEq, exists_eq_left']
  simp only [eq_comm]

/-- The expression for classes is true when a resource has one of them. -/
theorem isTrue_holds_classes_iff (types : List Labelled) :
    T.IsTrue (Valuation.contact c) (.holds ((walk contactVar d.fullChain n).1.group ++ [
        edge (walk contactVar d.fullChain n).1.target Rdf.type
          (.numbered (n + d.fullChain.length + 1)),
        .filter (.isIn (.var (.numbered (n + d.fullChain.length + 1)))
          (types.map fun t => .iri t.iri))])) ↔
      ∃ t ∈ types, ∃ x, T.Path d.fullChain (.resource c) x ∧
        T.Edge x Rdf.type (.resource t.iri) := by
  rw [isTrue_holds_walk_append_iff contact_contactVar (fun k _ => contact_numbered k)
    (P := fun x => ∃ t ∈ types, T.Edge x Rdf.type (.resource t.iri)) fun γ x hx _ hfree => ?_]
  · constructor
    · rintro ⟨x, hpath, t, ht, hedge⟩
      exact ⟨t, ht, x, hpath, hedge⟩
    · rintro ⟨t, ht, x, hpath, hedge⟩
      exact ⟨x, hpath, t, ht, hedge⟩
  · rw [Store.isTrue_holds_edge_iff hx (hfree _ (Nat.lt_succ_self _))]
    simp only [Store.isTrue_holds_filter_iff, isTrue_isIn_iff (Valuation.set_self γ _ _)]
    constructor
    · rintro ⟨y, hedge, t, ht, rfl⟩
      exact ⟨t, ht, hedge⟩
    · rintro ⟨t, ht, hedge⟩
      exact ⟨_, hedge, t, ht, rfl⟩

/-- The expression for a field for sub-types is true when the contact has a detail of one that
matches. -/
theorem isTrue_subTypeMatch_iff (types : SubTypes) :
    T.IsTrue (Valuation.contact c) (subTypeMatch d f types v flags n).1 ↔
      T.SubTypeMatches d f c v flags types := by
  cases types with
  | byProperty properties =>
    show T.IsTrue _ (Expr.any (propertyMatches d f (selectedTypes properties v flags) n).1) ↔ _
    rw [Store.isTrue_any, exists_isTrue_propertyMatches_iff]
    simp only [mem_selectedTypes_iff, Store.SubTypeMatches, and_assoc]
  | byClass classes =>
    have hselected : (∃ t ∈ selectedTypes classes v flags, ∃ x,
          T.Path d.fullChain (.resource c) x ∧ T.Edge x Rdf.type (.resource t.iri)) ↔
        T.SubTypeMatches d f c v flags (.byClass classes) := by
      simp only [mem_selectedTypes_iff, Store.SubTypeMatches, and_assoc]
    rw [← hselected]
    unfold subTypeMatch
    dsimp only
    cases selectedTypes classes v flags with
    | nil =>
      show T.IsTrue _ (.bool false) ↔ _
      simp [Store.isTrue_bool]
    | cons t ts =>
      rw [← isTrue_holds_classes_iff (n := n)]
      show T.IsTrue _ (.holds ((walk contactVar d.fullChain n).1.group ++ [
        edge (walk contactVar d.fullChain n).1.target Rdf.type
          (.numbered ((walk contactVar d.fullChain n).2 + 1)),
        .filter (.isIn (.var (.numbered ((walk contactVar d.fullChain n).2 + 1)))
          ((t :: ts).map fun t => .iri t.iri))])) ↔ _
      rw [walk_snd]

/-! ## Details -/

/-- The expression for a detail without definition is true when a value of it matches. -/
theorem isTrue_customMatch_iff {filter : DetailFilter} (hvalue : filter.value = some v)
    (hv : v.type = .text ∨ v.type = .list) :
    T.IsTrue (Valuation.contact c) (customMatch filter n).1 ↔
      ∃ x, T.HasFree filter.detail filter.field c x ∧
        ∃ w ∈ wantedTexts v, filter.flags.Matches x.str w := by
  simp only [customMatch, hvalue]
  exact isTrue_reachCustom_iff fun γ x hx => Store.isTrue_valueExpr hx hv filter.flags

theorem subTypes_of_mem_plainFields (h : f ∈ plainFields d) : f.subTypes = none := by
  have hplain := (List.mem_filter.mp h).2
  rw [Bool.and_eq_true, Option.isNone_iff_eq_none] at hplain
  exact hplain.2

/-- The expression for a detail with a definition is true when the condition finds a value in a
field. -/
theorem isTrue_definedMatch_iff {filter : DetailFilter}
    (hd : s.schema.detail? filter.detail = some d) (hmode : filter.flags.mode ≠ .phoneNumber)
    (hcontext : filter.field ≠ some Names.context) (hvalue : filter.value = some v)
    (hv : v.type = .text ∨ v.type = .list) (h : definedMatch s d filter n = .ok (e, n')) :
    T.IsTrue (Valuation.contact c) e ↔ filter.Finds T s c v := by
  have hfinds : filter.Finds T s c v ↔ ∃ f ∈ d.comparedFields filter.field,
      (f.subTypes = none ∧ T.FieldMatches s d f c v filter.flags) ∨
        ∃ types, f.subTypes = some types ∧ T.SubTypeMatches d f c v filter.flags types := by
    constructor
    · intro h
      cases h with
      | free hnone => rw [hd] at hnone; cases hnone
      | field hd' hf htypes hmatch =>
        obtain rfl := Option.some.inj (hd.symm.trans hd')
        exact ⟨_, hf, .inl ⟨htypes, hmatch⟩⟩
      | subType hd' hf htypes hmatch =>
        obtain rfl := Option.some.inj (hd.symm.trans hd')
        exact ⟨_, hf, .inr ⟨_, htypes, hmatch⟩⟩
    · rintro ⟨f, hf, ⟨htypes, hmatch⟩ | ⟨types, htypes, hmatch⟩⟩
      · exact .field hd hf htypes hmatch
      · exact .subType hd hf htypes hmatch
  rw [hfinds]
  unfold definedMatch at h
  split at h
  · exact absurd h reject_ne_ok
  · cases hfield : filter.field with
    | none =>
      simp only [hfield, accept_eq_ok_iff, anyFieldMatch, hvalue] at h
      have hany : e = Expr.any (fieldMatches s d v filter.flags (plainFields d) n).1 :=
        (congrArg Prod.fst h).symm
      rw [hany, Store.isTrue_any, exists_isTrue_fieldMatches_iff hmode hv]
      refine exists_congr fun f => and_congr_right fun hf => ?_
      simp [subTypes_of_mem_plainFields hf]
    | some name =>
      have hname : name ≠ Names.context := fun heq => hcontext (hfield.trans (congrArg some heq))
      simp only [hfield, hname, if_false] at h
      cases hf : d.field? name with
      | none =>
        simp only [hf] at h
        exact absurd h reject_ne_ok
      | some f =>
        simp only [hf] at h
        split at h
        · exact absurd h reject_ne_ok
        · simp only [accept_eq_ok_iff, oneFieldMatch, hvalue] at h
          simp only [DetailDefinition.comparedFields, hf, Option.toList_some, List.mem_singleton,
            exists_eq_left]
          cases htypes : f.subTypes with
          | none =>
            simp only [htypes] at h
            have he : e = (fieldMatch s d f v filter.flags n).1 := (congrArg Prod.fst h).symm
            simp [he, isTrue_fieldMatch_iff hmode hv]
          | some types =>
            simp only [htypes] at h
            have he : e = (subTypeMatch d f types v filter.flags n).1 :=
              (congrArg Prod.fst h).symm
            simp [he, isTrue_subTypeMatch_iff]

/-- The expression of a condition on a detail is true of a contact when the condition finds a
value of it. -/
theorem isTrue_detailMatch_iff_finds {filter : DetailFilter}
    (hmode : filter.flags.mode ≠ .phoneNumber) (htype : filter.detail ≠ Names.type)
    (hcontext : s.schema.detail? filter.detail = none ∨ filter.field ≠ some Names.context)
    (hvalue : filter.value = some v) (hv : v.type = .text ∨ v.type = .list)
    (h : detailMatch s filter n = .ok (e, n')) :
    T.IsTrue (Valuation.contact c) e ↔ filter.Finds T s c v := by
  unfold detailMatch at h
  rw [if_neg htype] at h
  cases hd : s.schema.detail? filter.detail with
  | none =>
    rw [hd] at h
    have he : e = (customMatch filter n).1 := (congrArg Prod.fst (accept_eq_ok_iff.mp h)).symm
    rw [he, isTrue_customMatch_iff hvalue hv]
    constructor
    · rintro ⟨x, hx, w, hw, hmatch⟩
      exact .free hd hx hw hmatch
    · intro hfinds
      cases hfinds with
      | free _ hx hw hmatch => exact ⟨_, hx, _, hw, hmatch⟩
      | field hd' => rw [hd] at hd'; cases hd'
      | subType hd' => rw [hd] at hd'; cases hd'
  | some d =>
    rw [hd] at h
    have hfield := hcontext.resolve_left (by simp [hd])
    exact isTrue_definedMatch_iff hd hmode hfield hvalue hv h

end Query

end ContactGraph
