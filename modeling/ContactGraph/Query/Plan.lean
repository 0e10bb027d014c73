import ContactGraph.Query.Detail
import ContactGraph.Query.Ordering
import ContactGraph.Query.Print
import ContactGraph.Request
import ContactGraph.Schema.Set

/-!
# Query plans

A plan is the query for one type of contact together with what is needed to read its result. The
first four columns are the contact, its id, its affiliation and the label of that; then come the
columns of the details, of free details and of relationships. `plan` makes the query that fetches
contacts and `idSelect` the one that fetches only ids and sort keys.
-/

namespace ContactGraph.Query

open Vocabulary

/-- The column of the id of a contact. -/
def idColumn : Nat := 1

/-- The column of the affiliation. -/
def contextColumn : Nat := 2

/-- The column of the label of the affiliation. -/
def contextLabelColumn : Nat := 3

/-- A query and what is needed to read its result. -/
structure Plan where
  /-- The schema of the contacts. -/
  schema : Schema
  /-- The query. -/
  select : Select
  /-- Which columns belong to which detail. -/
  bindings : List Binding
  /-- The details asked for, and those they depend on. -/
  details : NameSet
  /-- The details asked for that have no definition. -/
  customDetails : NameSet
  /-- The column of details without definition. -/
  customColumn : Option Nat
  /-- The columns of relationships. -/
  relationships : Option RelationshipColumns
  /-- Whether the rows come in the order asked for. -/
  sorted : Bool
  /-- Whether all details are wanted. -/
  allDetails : Bool

/-! ## What is asked for -/

/-- The names that a hint and sort orders mention. -/
def mentioned (sorting : List SortOrder) (hint : FetchHint) : List String :=
  hint.details ++ sorting.map (·.detail)

/-- The details to fetch. -/
def wantedDetails (schema : Schema) (sorting : List SortOrder) (hint : FetchHint) : NameSet :=
  if hint.details.isEmpty then NameSet.ofNames (schema.details.map (·.name))
  else NameSet.ofNames ((mentioned sorting hint).flatMap fun name =>
    match schema.detail? name with
    | some d => d.dependencies
    | none => [])

/-- The details to fetch that have no definition. -/
def wantedCustom (schema : Schema) (sorting : List SortOrder) (hint : FetchHint) : NameSet :=
  if hint.details.isEmpty then ∅
  else NameSet.ofNames ((mentioned sorting hint).filter fun name => (schema.detail? name).isNone)

/-! ## Parts of the query -/

/-- The columns in front of all others. -/
def baseColumns : List Expr := [
  .var contactVar,
  Expr.idOf (.var contactVar),
  .var contextVar,
  .call Rdf.label [.var contextVar]]

/-- What holds of every contact of a schema. -/
def basePatterns (schema : Schema) (settings : Settings) : Group :=
  schema.classes.map (fun c => .triple (.var contactVar) Rdf.type (.iri c))
    ++ if settings.includeSelf then []
       else [.filter (.binary (.var contactVar) .ne (.iri Nco.defaultContactMe))]

/-- The affiliation of the contact, if it has one. -/
def affiliationPattern : Pattern :=
  .optional [edge contactVar Nco.hasAffiliation contextVar]

/-- All free details of the contact, or those with one of the names. -/
def customDetailsExpr (names : List String) : Fresh Expr := do
  let detail ← fresh
  let field ← fresh
  let value ← fresh
  let values := collect
    (Expr.concat [.str (Expr.idOf (.var field)), Expr.text ":", .str (.var value)])
    Packed.list [edge field Nao.propertyValue value]
  let fields := collect
    (Expr.concat [
      .call Nao.propertyName [.var field], Expr.text (separator Packed.field), values])
    Packed.field [edge detail Nao.hasProperty field]
  let name := Expr.call Nao.propertyName [.var detail]
  let among : Group :=
    if names.isEmpty then [] else [.filter (.isIn name (names.map Expr.text))]
  pure (collect (Expr.concat [name, Expr.text (separator Packed.field), fields])
    Packed.detail (edge contactVar Nao.hasProperty detail :: among))

/-- The ids of the groups of a contact. -/
def groupsExpr : Fresh Expr := do
  let group ← fresh
  pure (collect (.str (Expr.idOf (.var group))) Packed.list
    [edge contactVar Nco.belongsToGroup group])

/-- The ids of the members of a group. -/
def membersExpr : Fresh Expr := do
  let member ← fresh
  pure (collect (.str (Expr.idOf (.var member))) Packed.list
    [edge member Nco.belongsToGroup contactVar])

/-- The column of free details, when any are wanted. -/
def customPart (schema : Schema) (sorting : List SortOrder) (hint : FetchHint) :
    Fresh (List Expr) := do
  let names := wantedCustom schema sorting hint
  if !names.isEmpty || hint.details.isEmpty then do
    let e ← customDetailsExpr names.keys
    pure [e]
  else pure []

/-- The columns of relationships, when they are wanted. -/
def relationshipPart (schema : Schema) (hint : FetchHint) : Fresh (List Expr) :=
  if hint.wants Relationship.hasMember then do
    let groups ← groupsExpr
    if schema.type = .group then do
      let members ← membersExpr
      pure [groups, members]
    else pure [groups]
  else pure []

/-- A condition as a pattern, unless it always holds. -/
def conditionPatterns (e : Expr) : Group :=
  if e.isTrue then [] else [.filter e]

/-! ## Queries -/

/-- The query that fetches contacts, as a computation that makes up variables. -/
def planFrom (s : Scope) (request : Request) : Attempt Plan := do
  let wanted := wantedDetails s.schema request.sorting request.hint
  let bound := s.schema.details.filter (isBound wanted)
  let (columns, bindings) ← accept (bindDetails bound baseColumns.length)
  let custom ← accept (customPart s.schema request.sorting request.hint)
  let edges ← accept (relationshipPart s.schema request.hint)
  let condition ← restriction s request.filter
  let order ← accept (orderConditions s.schema request.sorting)
  let customColumn := baseColumns.length + columns.length
  let groupColumn := customColumn + custom.length
  pure {
    schema := s.schema
    select := .mk (baseColumns ++ columns ++ custom ++ edges)
      (basePatterns s.schema s.settings ++ affiliationPattern :: conditionPatterns condition)
      (order.getD []) none
    bindings := bindings
    details := wanted
    customDetails := wantedCustom s.schema request.sorting request.hint
    customColumn := if custom.isEmpty then none else some customColumn
    relationships :=
      if edges.isEmpty then none
      else some ⟨groupColumn, if edges.length = 2 then some (groupColumn + 1) else none⟩
    sorted := order.isSome
    allDetails := request.hint.details.isEmpty }

/-- The query that fetches contacts; one with neither a column nor a pattern is refused. -/
def plan (s : Scope) (request : Request) : Except Rejection Plan := do
  let (p, _) ← planFrom s request 0
  if p.select.isEmpty then .error .emptyQuery else .ok p

/-- The query that fetches ids and sort keys, as a computation that makes up variables. -/
def idSelectFrom (s : Scope) (request : Request) : Attempt Select := do
  let condition ← restriction s request.filter
  match ← accept (orderConditions s.schema request.sorting) with
  | none => reject .orderUnknown
  | some order =>
    pure (.mk ([.var contactVar, Expr.idOf (.var contactVar)] ++ order.map (·.key))
      (basePatterns s.schema s.settings ++ conditionPatterns condition)
      order request.hint.maxCount)

/-- The query that fetches ids and sort keys. -/
def idSelect (s : Scope) (request : Request) : Except Rejection Select :=
  (idSelectFrom s request 0).map (·.1)

/-- The schema for a type of contact. -/
def schemaFor (schemas : SchemaSet) (type : ContactType) : Except Rejection Schema :=
  match schemas.get? type with
  | some schema => .ok schema
  | none => .error (.noSchema type)

/-- The text of the query that fetches contacts of a type. -/
def queryText (schemas : SchemaSet) (settings : Settings) (ids : IdCache) (type : ContactType)
    (request : Request) : Except Rejection String := do
  let schema ← schemaFor schemas type
  let p ← plan ⟨schema, settings, ids⟩ request
  pure p.select.text

/-- The text of the query that fetches ids of contacts of a type. -/
def idQueryText (schemas : SchemaSet) (settings : Settings) (ids : IdCache) (type : ContactType)
    (request : Request) : Except Rejection String := do
  let schema ← schemaFor schemas type
  let select ← idSelect ⟨schema, settings, ids⟩ request
  pure select.text

end ContactGraph.Query
