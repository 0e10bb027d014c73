import ContactGraph.Proofs.Store.Meaning
import ContactGraph.Query.Restriction

/-!
# What filters mean

Which contacts of a store meet a filter, said without queries. A condition on a field asks for a
value at the end of a chain of properties (`Store.Path`), an inverse step walked from object to
subject, whose text stands to a wanted text in the relation of the match mode
(`MatchFlags.Matches`). A condition on membership asks for an edge to a group or from a member.
`Filter.Meets` puts them together. `Filter.Covered` are the filters for which it is given : ranges,
changes, details without definition, and fields whose values are not compared by their text alone
are left out.
-/

namespace ContactGraph

open Query Vocabulary

/-! ## Texts -/

/-- How a text stands to a wanted one in a mode. -/
def MatchMode.Relates : MatchMode → String → String → Prop
  | .contains, s, wanted => wanted.toList <:+: s.toList
  | .startsWith, s, wanted => wanted.toList <+: s.toList
  | .endsWith, s, wanted => wanted.toList <:+ s.toList
  | .exactly, s, wanted => s = wanted
  | .fixedString, s, wanted => s = wanted
  | .phoneNumber, s, wanted => s = wanted

instance (mode : MatchMode) (s wanted : String) : Decidable (mode.Relates s wanted) :=
  match mode with
  | .contains => inferInstanceAs (Decidable (_ <:+: _))
  | .startsWith => inferInstanceAs (Decidable (_ <+: _))
  | .endsWith => inferInstanceAs (Decidable (_ <:+ _))
  | .exactly => inferInstanceAs (Decidable (_ = _))
  | .fixedString => inferInstanceAs (Decidable (_ = _))
  | .phoneNumber => inferInstanceAs (Decidable (_ = _))

/-- Whether a text matches a wanted one, both in lower case unless letter case matters. -/
def MatchFlags.Matches (flags : MatchFlags) (s wanted : String) : Prop :=
  if flags.folds then flags.mode.Relates (Text.lowercase s) (Text.lowercase wanted)
  else flags.mode.Relates s wanted

instance (flags : MatchFlags) (s wanted : String) : Decidable (flags.Matches s wanted) :=
  inferInstanceAs (Decidable (ite _ _ _))

/-! ## Chains -/

namespace Store

/-- Whether a property leads from one node to another. -/
def Edge (T : Store) (a : Node) (p : Iri) (b : Node) : Prop :=
  ∃ t ∈ T.triples, t.predicate = p ∧ t.subject = a ∧ t.object = b

instance (T : Store) (a : Node) (p : Iri) (b : Node) : Decidable (T.Edge a p b) :=
  inferInstanceAs (Decidable (∃ t ∈ T.triples, _))

/-- Whether a step leads from one node to another. -/
def Step (T : Store) (p : Property) (a b : Node) : Prop :=
  if p.inverse then T.Edge b p.iri a else T.Edge a p.iri b

instance (T : Store) (p : Property) (a b : Node) : Decidable (T.Step p a b) :=
  inferInstanceAs (Decidable (ite _ _ _))

/-- Whether a chain leads from one node to another. -/
def Path (T : Store) : List Property → Node → Node → Prop
  | [], a, c => a = c
  | p :: ps, a, c => ∃ b, T.Step p a b ∧ T.Path ps b c

/-- The number of a node, if it is a resource that has one. -/
def number? (T : Store) : Node → Option LocalId
  | .resource iri => T.number iri
  | _ => none

end Store

/-! ## Filters -/

/-- Whether a contact meets a filter. -/
inductive Filter.Meets (T : Store) (s : Scope) (c : Iri) : Filter → Prop
  /-- Every contact does. -/
  | everything : Meets T s c .everything
  /-- Its number is one of the list. -/
  | ids {ids : List LocalId} {id : LocalId} :
    id ∈ ids → T.number c = some id → Meets T s c (.ids ids)
  /-- Some value of the field has a text that matches some wanted text. -/
  | detail {filter : DetailFilter} {d : DetailDefinition} {name : String} {f : FieldDefinition}
    {v : Value} {x : Node} {wanted : String} :
    s.schema.detail? filter.detail = some d → filter.field = some name →
    d.field? name = some f → filter.value = some v →
    T.Path (d.fullChain ++ f.chain) (.resource c) x → wanted ∈ wantedTexts v →
    filter.flags.Matches x.str wanted → Meets T s c (.detail filter)
  /-- It belongs to the related group. -/
  | group {filter : RelationshipFilter} {g : Node} :
    filter.type = Relationship.hasMember →
    (∀ manager, filter.manager = some manager → manager = s.settings.managerUri) →
    filter.role ≠ .second → T.Edge (.resource c) Nco.belongsToGroup g →
    T.number? g = some filter.contact → Meets T s c (.relationship filter)
  /-- The related member belongs to it. -/
  | member {filter : RelationshipFilter} {m : Node} :
    filter.type = Relationship.hasMember →
    (∀ manager, filter.manager = some manager → manager = s.settings.managerUri) →
    filter.role ≠ .first → T.Edge m Nco.belongsToGroup (.resource c) →
    T.number? m = some filter.contact → Meets T s c (.relationship filter)
  /-- It meets all of the filters. -/
  | intersection {filters : List Filter} :
    (∀ f ∈ filters, Meets T s c f) → Meets T s c (.intersection filters)
  /-- It meets one of the filters. -/
  | union {filters : List Filter} {f : Filter} :
    f ∈ filters → Meets T s c f → Meets T s c (.union filters)

/-- A condition that compares the texts of a field with a wanted text or with several : the field
has a chain, any text is allowed, and its values are neither instances nor sub-types. -/
structure DetailFilter.IsPlain (schema : Schema) (filter : DetailFilter) : Prop where
  /-- The detail is not the contact type. -/
  not_type : filter.detail ≠ Names.type
  /-- The field is not the context. -/
  not_context : filter.field ≠ some Names.context
  /-- Phone numbers are not compared by their digits. -/
  not_phone : filter.flags.mode ≠ .phoneNumber
  /-- There is a value, a text or a list of texts. -/
  value : ∃ v, filter.value = some v ∧ (v.type = .text ∨ v.type = .list)
  /-- The schema has the detail, and the detail has the field. -/
  field : ∃ d name f, schema.detail? filter.detail = some d ∧ filter.field = some name ∧
    d.field? name = some f ∧ f.withoutMapping = false ∧ f.allowed = [] ∧ f.instances = [] ∧
    f.subTypes = none

/-- The filters whose meaning is given here. -/
inductive Filter.Covered (schema : Schema) : Filter → Prop
  | everything : Covered schema .everything
  | nothing : Covered schema .nothing
  | ids (ids : List LocalId) : Covered schema (.ids ids)
  | detail {filter : DetailFilter} : filter.IsPlain schema → Covered schema (.detail filter)
  | relationship (filter : RelationshipFilter) : Covered schema (.relationship filter)
  | intersection {filters : List Filter} :
    (∀ f ∈ filters, Covered schema f) → Covered schema (.intersection filters)
  | union {filters : List Filter} :
    (∀ f ∈ filters, Covered schema f) → Covered schema (.union filters)

end ContactGraph
