import ContactGraph.Contact.Names
import ContactGraph.Phone.LocalNumber
import ContactGraph.Query.Chain
import ContactGraph.Query.Match
import ContactGraph.Reading.IdCache
import ContactGraph.Settings

/-!
# Restrictions

A filter becomes one expression about the contact of a query. A condition on a detail asks whether
the chain of the detail and of its field can be walked to a matching value; it is independent of the
columns of the query.
-/

namespace ContactGraph.Query

open Vocabulary

/-- What building a query refers to. -/
structure Scope where
  /-- The schema of the contacts. -/
  schema : Schema
  /-- The settings of the store. -/
  settings : Settings
  /-- The known ids of resources. -/
  ids : IdCache

/-- A computation that makes up variables and can be refused. -/
abbrev Attempt := StateT Nat (Except Rejection)

/-- Refuses an attempt. -/
def reject {α : Type} (r : Rejection) : Attempt α := fun _ =>
  .error r

/-- A computation that is never refused. -/
def accept {α : Type} (x : Fresh α) : Attempt α := fun n =>
  .ok (x n)

/-! ## Walking to values -/

/-- Patterns that lead to a value. -/
structure Reach where
  /-- The patterns. -/
  group : Group
  /-- The variable of the value. -/
  value : Variable

/-- The patterns of a free property with a name. -/
def freeProperty (resource : Variable) (name : String) : Fresh Reach := do
  let property ← fresh
  let value ← fresh
  pure ⟨[
    edge resource Nao.hasProperty property,
    .triple (.var property) Nao.propertyName (Expr.text name),
    edge property Nao.propertyValue value], value⟩

/-- The patterns that lead from the contact to the value of a field. -/
def reachField (d : DetailDefinition) (f : FieldDefinition) : Fresh Reach := do
  let w ← walk contactVar d.fullChain
  if f.withoutMapping then do
    let r ← freeProperty w.target f.name
    pure ⟨w.group ++ r.group, r.value⟩
  else do
    let v ← walk w.target f.chain
    pure ⟨w.group ++ v.group, v.target⟩

/-- The patterns that lead to a value of a detail without definition, kept as a free property whose
properties are its fields. -/
def reachCustom (detail : String) (field : Option String) : Fresh Reach := do
  let node ← fresh
  let property ← fresh
  let value ← fresh
  let named := match field with
    | some name => [Pattern.triple (.var property) Nao.propertyName (Expr.text name)]
    | none => []
  pure ⟨[
    edge contactVar Nao.hasProperty node,
    .triple (.var node) Nao.propertyName (Expr.text detail),
    edge node Nao.hasProperty property] ++ named ++ [edge property Nao.propertyValue value], value⟩

/-! ## Details -/

/-- Whether the contact has a value in a field. -/
def fieldExists (d : DetailDefinition) (f : FieldDefinition) : Fresh Expr := do
  let r ← reachField d f
  pure (.holds r.group)

/-- Whether the contact has a value in each of some fields. -/
def fieldsExist (d : DetailDefinition) : List FieldDefinition → Fresh (List Expr)
  | [] => pure []
  | f :: fs => do
    let e ← fieldExists d f
    let es ← fieldsExist d fs
    pure (e :: es)

/-- Fields that hold values of their own. -/
def plainFields (d : DetailDefinition) : List FieldDefinition :=
  d.fields.filter fun f => !f.computed && f.subTypes.isNone

/-- Whether the contact has a detail : its resource, or without one a value in some field. -/
def detailExists (d : DetailDefinition) : Fresh Expr :=
  if d.fullChain.isEmpty then do
    let es ← fieldsExist d (plainFields d)
    pure (Expr.any es)
  else do
    let w ← walk contactVar d.fullChain
    pure (.holds w.group)

/-- Whether the store's local number of a phone number matches that of a value. -/
def phoneMatch (s : Scope) (d : DetailDefinition) (value : Value) : Fresh Expr := do
  let length := s.settings.phoneDigits
  let number := Phone.localNumber length value.toText.toList
  let w ← walk contactVar d.fullChain
  let v ← fresh
  let mode := if length ≤ number.length then MatchMode.endsWith else .exactly
  let condition := textExpr (.str (.var v)) (String.ofList number) ⟨mode, true⟩
  pure (.holds (w.group ++ [edge w.target Maemo.localPhoneNumber v, .filter condition]))

/-- Whether some text a field may have matches a value. -/
def isPossible (f : FieldDefinition) (value : Value) (flags : MatchFlags) : Bool :=
  f.allowed.isEmpty
    || f.allowed.any fun text => (wantedTexts value).any fun wanted => textMatches text wanted flags

/-- The known ids of the instances whose label matches a value. -/
def matchingIds (s : Scope) (f : FieldDefinition) (value : Value) (flags : MatchFlags) :
    List LocalId :=
  (f.instances.filter fun i => textMatches i.label value.toText flags).filterMap fun i =>
    s.ids.id? i.iri

/-- Whether the id of a variable is one of a list. -/
def idIn (v : Variable) (ids : List LocalId) : Expr :=
  .isIn (Expr.idOf (.var v)) (ids.map fun id => .integer id.toNat)

/-- Whether a field has a value that matches. -/
def fieldMatch (s : Scope) (d : DetailDefinition) (f : FieldDefinition) (value : Value)
    (flags : MatchFlags) : Fresh Expr :=
  if flags.mode = .phoneNumber && d.name = Names.phoneNumber then phoneMatch s d value
  else if !isPossible f value flags then pure (.bool false)
  else do
    let r ← reachField d f
    if f.instances.isEmpty then
      pure (.holds (r.group ++ [.filter (valueExpr r.value value flags)]))
    else
      match matchingIds s f value flags with
      | [] => pure (.bool false)
      | id :: ids => pure (.holds (r.group ++ [.filter (idIn r.value (id :: ids))]))

/-- Whether some of the fields have values that match. -/
def fieldMatches (s : Scope) (d : DetailDefinition) (value : Value) (flags : MatchFlags) :
    List FieldDefinition → Fresh (List Expr)
  | [] => pure []
  | f :: fs => do
    let e ← fieldMatch s d f value flags
    let es ← fieldMatches s d value flags fs
    pure (e :: es)

/-- Whether a contact has a detail of one of the sub-types kept by property. -/
def propertyMatches (d : DetailDefinition) (f : FieldDefinition) :
    List Labelled → Fresh (List Expr)
  | [] => pure []
  | t :: ts => do
    let w ← walk contactVar (lastOver t.iri (d.fullChain ++ f.chain))
    let es ← propertyMatches d f ts
    pure (.holds w.group :: es)

/-- The sub-types whose label matches a value. -/
def selectedTypes (types : List Labelled) (value : Value) (flags : MatchFlags) : List Labelled :=
  types.filter fun t => (wantedTexts value).any fun wanted => textMatches t.label wanted flags

/-- Whether a contact has a detail of a sub-type that matches. -/
def subTypeMatch (d : DetailDefinition) (f : FieldDefinition) (types : SubTypes) (value : Value)
    (flags : MatchFlags) : Fresh Expr :=
  match types with
  | .byProperty properties => do
    let es ← propertyMatches d f (selectedTypes properties value flags)
    pure (Expr.any es)
  | .byClass classes =>
    match selectedTypes classes value flags with
    | [] => pure (.bool false)
    | t :: ts => do
      let w ← walk contactVar d.fullChain
      let type ← fresh
      pure (.holds (w.group ++ [
        edge w.target Rdf.type type,
        .filter (.isIn (.var type) ((t :: ts).map fun t => .iri t.iri))]))

/-- Whether a contact has a detail in a context. -/
def contextMatch (d : DetailDefinition) (value : Option Value) : Fresh Expr := do
  let affiliation ← fresh
  let w ← walk affiliation d.chain
  let group := edge contactVar Nco.hasAffiliation affiliation :: w.group
  match value with
  | none => pure (.holds group)
  | some v => do
    let label ← fresh
    let condition := textExpr (.str (.var label)) v.toText ⟨.exactly, false⟩
    pure (.holds (group ++ [edge affiliation Rdf.label label, .filter condition]))

/-- The pseudo-detail of the contact type : true or false for all contacts of a schema. -/
def typeMatch (s : Scope) : Option Value → Expr
  | none => .bool true
  | some v => .bool (v.toText.toList.map Char.toLower = s.schema.type.name.toList)

/-- Whether a contact has a detail without definition. -/
def customMatch (filter : DetailFilter) : Fresh Expr := do
  let r ← reachCustom filter.detail filter.field
  match filter.value with
  | none => pure (.holds r.group)
  | some v => pure (.holds (r.group ++ [.filter (valueExpr r.value v filter.flags)]))

/-- Whether a contact has a detail, or a matching value in any of its fields. -/
def anyFieldMatch (s : Scope) (d : DetailDefinition) (value : Option Value) (flags : MatchFlags) :
    Fresh Expr :=
  match value with
  | none => detailExists d
  | some v => do
    let es ← fieldMatches s d v flags (plainFields d)
    pure (Expr.any es)

/-- Whether a contact has a value in a field, or a matching one. -/
def oneFieldMatch (s : Scope) (d : DetailDefinition) (f : FieldDefinition) (value : Option Value)
    (flags : MatchFlags) : Fresh Expr :=
  match value, f.subTypes with
  | none, _ => fieldExists d f
  | some v, some types => subTypeMatch d f types v flags
  | some v, none => fieldMatch s d f v flags

/-- A condition on a detail with a definition. -/
def definedMatch (s : Scope) (d : DetailDefinition) (filter : DetailFilter) : Attempt Expr :=
  if d.computed then reject (.computedDetail d.name)
  else
    match filter.field with
    | none => accept (anyFieldMatch s d filter.value filter.flags)
    | some name =>
      if name = Names.context then
        if d.hasContext then accept (contextMatch d filter.value) else reject (.noContext d.name)
      else
        match d.field? name with
        | none => reject (.noField d.name name)
        | some f =>
          if f.computed then reject (.computedField d.name f.name)
          else accept (oneFieldMatch s d f filter.value filter.flags)

/-- A condition on a detail. -/
def detailMatch (s : Scope) (filter : DetailFilter) : Attempt Expr :=
  if filter.detail = Names.type then pure (typeMatch s filter.value)
  else
    match s.schema.detail? filter.detail with
    | none => accept (customMatch filter)
    | some d => definedMatch s d filter

/-! ## Ranges, changes and relationships -/

/-- The field of a detail whose values have an order in the store. -/
def orderedField? (d : DetailDefinition) (name : String) : Option FieldDefinition :=
  (d.field? name).filter fun f => !f.computed && f.subTypes.isNone && f.instances.isEmpty

/-- The conditions of a range on a variable. Texts are compared in lower case unless letter case
matters. -/
def rangeExprs (filter : RangeFilter) (v : Variable) (textual : Bool) : List Expr :=
  let folds := textual && !filter.flags.caseSensitive
  let subject := if folds then Expr.lowerCase (.str (.var v)) else .var v
  let operand (value : Value) :=
    if folds then Expr.text (Text.lowercase value.toText) else literalOf value
  let low := filter.min.toList.map fun value =>
    Expr.binary (operand value) (if filter.range.excludeLower then .lt else .le) subject
  let high := filter.max.toList.map fun value =>
    Expr.binary subject (if filter.range.includeUpper then .le else .lt) (operand value)
  low ++ high

/-- The patterns of a value in a range. -/
def inRange (filter : RangeFilter) (r : Reach) (textual : Bool) : Expr :=
  match rangeExprs filter r.value textual with
  | [] => .holds r.group
  | e :: es => .holds (r.group ++ [.filter (Expr.all (e :: es))])

/-- A condition on a range of values. -/
def rangeMatch (s : Scope) (filter : RangeFilter) : Attempt Expr :=
  match s.schema.detail? filter.detail with
  | none => accept do
    let r ← reachCustom filter.detail (some filter.field)
    pure (inRange filter r true)
  | some d =>
    match orderedField? d filter.field with
    | none => reject (.noRange filter.detail filter.field)
    | some f => accept do
      let r ← reachField d f
      pure (inRange filter r (isTextual f.type))

/-- Whether a time of the contact is not before that of a filter. -/
def timeMatch (property : Iri) (since : Instant) : Fresh Expr := do
  let time ← fresh
  pure (.holds [
    edge contactVar property time,
    .filter (.binary (.var time) .ge (Expr.typed since.text Xsd.dateTime))])

/-- A condition on changes. -/
def changeMatch (filter : ChangeFilter) : Attempt Expr :=
  match filter.event with
  | .added => accept (timeMatch Nie.contentCreated filter.since)
  | .changed => accept (timeMatch Nie.contentLastModified filter.since)
  | .removed => reject .removalsUnknown

/-- Whether the contact belongs to the group with an id. -/
def inGroup (id : LocalId) : Fresh Expr := do
  let group ← fresh
  pure (.holds [
    edge contactVar Nco.belongsToGroup group,
    .filter (.binary (Expr.idOf (.var group)) .eq (.integer id.toNat))])

/-- Whether the contact with an id belongs to this contact. -/
def hasMember (id : LocalId) : Fresh Expr := do
  let member ← fresh
  pure (.holds [
    edge member Nco.belongsToGroup contactVar,
    .filter (.binary (Expr.idOf (.var member)) .eq (.integer id.toNat))])

/-- A condition on relationships. Only membership in groups of this store is kept. -/
def relationshipMatch (s : Scope) (filter : RelationshipFilter) : Fresh Expr :=
  if filter.type ≠ Relationship.hasMember
      || filter.manager.any (· ≠ s.settings.managerUri) then
    pure (.bool false)
  else
    match filter.role with
    | .first => inGroup filter.contact
    | .second => hasMember filter.contact
    | .either => do
      let group ← inGroup filter.contact
      let member ← hasMember filter.contact
      pure (Expr.any [group, member])

/-! ## Filters -/

mutual

/-- The expression of a filter. -/
def restriction (s : Scope) : Filter → Attempt Expr
  | .everything => pure (.bool true)
  | .nothing => pure (.bool false)
  | .ids [] => reject .noIds
  | .ids (id :: ids) => pure (idIn contactVar (id :: ids))
  | .detail filter => detailMatch s filter
  | .range filter => rangeMatch s filter
  | .change filter => changeMatch filter
  | .relationship filter => accept (relationshipMatch s filter)
  | .intersection filters => do
    let es ← restrictions s filters
    pure (Expr.all es)
  | .union filters => do
    let es ← restrictions s filters
    pure (Expr.any es)

/-- The expressions of filters, in order. -/
def restrictions (s : Scope) : List Filter → Attempt (List Expr)
  | [] => pure []
  | f :: fs => do
    let e ← restriction s f
    let es ← restrictions s fs
    pure (e :: es)

end

end ContactGraph.Query
