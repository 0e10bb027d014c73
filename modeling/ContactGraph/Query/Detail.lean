import ContactGraph.Query.Column
import ContactGraph.Query.Layout

/-!
# The columns of a detail

`uniqueColumns` and `multiColumns` give the column expressions of a detail together with the layout
that says what they hold, numbered from a first column on.
-/

namespace ContactGraph.DetailDefinition

/-- The field at a place. -/
def fieldAt (d : DetailDefinition) (i : Nat) : FieldDefinition :=
  d.fields.getD i default

end ContactGraph.DetailDefinition

namespace ContactGraph.Query

/-! ## Unique details -/

/-- The column of a value of a unique detail, before it has a number. -/
structure Cell where
  /-- The place of the field. -/
  field : Nat
  /-- Whether it holds free properties. -/
  custom : Bool
  /-- Its expression. -/
  expr : Expr

/-- Whether one property function reads the field : one forward step from the start, nothing
else. -/
def readsDirectly (d : DetailDefinition) (f : FieldDefinition) : Option Iri :=
  if d.chain.isEmpty && !d.hasOwner && f.instances.isEmpty then
    match f.chain with
    | [p] => if p.inverse then none else some p.iri
    | _ => none
  else none

/-- The values of a field of a unique detail. -/
def uniqueValue (d : DetailDefinition) (f : FieldDefinition) : Fresh Expr :=
  match readsDirectly d f with
  | some iri => pure (.call iri [.var (startOf d)])
  | none => do
    let chain := d.chain ++ f.chain
    let value ← listOf (startOf d) chain f
    match chain.head? with
    | none => pure value
    | some owner =>
      if d.hasOwner then do
        let graph ← graphOf (startOf d) owner none
        pure (withGraph value graph)
      else pure value

/-- The column of the values of a field, unless it has none. -/
def valueCells (d : DetailDefinition) (f : FieldDefinition) (i : Nat) : Fresh (List Cell) :=
  if f.withoutMapping then pure []
  else do
    let e ← uniqueValue d f
    pure [⟨i, false, guarded d e⟩]

/-- The column of the free properties of a field, unless it has none. -/
def customCells (d : DetailDefinition) (f : FieldDefinition) (i : Nat) : Fresh (List Cell) :=
  if f.customValues then do
    let e ← customValuesOf (startOf d) d.chain f.name
    pure [⟨i, true, guarded d e⟩]
  else pure []

/-- The columns of a field. -/
def fieldCells (d : DetailDefinition) (f : FieldDefinition) (i : Nat) : Fresh (List Cell) :=
  if f.computed || f.byProperty then pure []
  else do
    let values ← valueCells d f i
    let customs ← customCells d f i
    pure (values ++ customs)

/-- The columns of several fields. -/
def cellsOf (d : DetailDefinition) : List (FieldDefinition × Nat) → Fresh (List Cell)
  | [] => pure []
  | (f, i) :: rest => do
    let here ← fieldCells d f i
    let there ← cellsOf d rest
    pure (here ++ there)

/-- The columns of the sub-types of a unique detail : the chain of the field, its last step
changed. -/
def uniqueSubTypes (d : DetailDefinition) (f : FieldDefinition) : List Labelled → Fresh (List Expr)
  | [] => pure []
  | t :: ts => do
    let e ← listOf (startOf d) (lastOver t.iri (d.chain ++ f.chain)) f
    let rest ← uniqueSubTypes d f ts
    pure (guarded d e :: rest)

/-- The column of the URI of a unique detail, unless it has none of its own. -/
def uniqueUri (d : DetailDefinition) : Fresh (List Expr) :=
  if !d.isAffiliation && d.hasUri then do
    let w ← walk (startOf d) d.chain
    pure [guarded d (collect (.str (.var w.target)) Packed.list w.group)]
  else pure []

/-- Sub-types with the columns they get from `first` on. -/
def subTypeColumns (first : Nat) (types : List Labelled) : List SubTypeColumn :=
  types.zipIdx.map fun (t, i) => ⟨first + i, t.label⟩

/-- The column expressions of a unique detail and their layout. -/
def uniqueColumns (d : DetailDefinition) (first : Nat) : Fresh (List Expr × UniqueLayout) := do
  let cells ← cellsOf d d.fields.zipIdx
  let slots := cells.zipIdx.map fun (c, i) => (⟨c.field, first + i, c.custom⟩ : Slot)
  let (subTypeField, types) := match d.propertySubTypes with
    | some (i, types) => (some i, types)
    | none => (none, [])
  let subTypes ← uniqueSubTypes d (d.fieldAt (subTypeField.getD 0)) types
  let uris ← uniqueUri d
  let uri :=
    if d.isAffiliation then some .affiliation
    else if d.hasUri then some (.column (first + slots.length + types.length))
    else none
  pure (cells.map (·.expr) ++ subTypes ++ uris,
    ⟨slots, uri, subTypeField, subTypeColumns (first + slots.length) types⟩)

/-! ## Details that can be many -/

/-- The parts of an instance that a field contributes. -/
def fieldTokens (f : FieldDefinition) (i : Nat) : List Token :=
  if f.computed || f.byProperty then []
  else if f.byClass then [.classes i]
  else
    (if f.withoutMapping then [] else [.value i]) ++ (if f.customValues then [.custom i] else [])

/-- The parts of an instance : its URI, then the fields, those with inverse steps last. -/
def tokensOf (d : DetailDefinition) : List Token :=
  let fields := d.fields.zipIdx
  let ordered :=
    fields.filter (fun (f, _) => !f.hasInverse) ++ fields.filter (fun (f, _) => f.hasInverse)
  (if d.hasUri then [.uri] else []) ++ ordered.flatMap fun (f, i) => fieldTokens f i

/-- The values of a field of the resource of a detail. -/
def instanceValue (f : FieldDefinition) (resource : Variable) : Fresh Expr :=
  if f.chain.isEmpty then pure (valueOf f resource) else listOf resource f.chain f

/-- The text of one part of an instance. -/
def tokenExpr (d : DetailDefinition) (resource : Variable) (graph : Option Expr) :
    Token → Fresh Expr
  | .uri => pure (.str (.var resource))
  | .value i => do
    let value ← instanceValue (d.fieldAt i) resource
    match graph with
    | some g => pure (withGraph value g)
    | none => pure value
  | .custom i => customValuesOf resource [] (d.fieldAt i).name
  | .classes _ => classIdsOf resource

/-- The texts of the parts of an instance. -/
def tokenExprs (d : DetailDefinition) (resource : Variable) (graph : Option Expr) :
    List Token → Fresh (List Expr)
  | [] => pure []
  | t :: ts => do
    let e ← tokenExpr d resource graph t
    let es ← tokenExprs d resource graph ts
    pure (e :: es)

/-- The graph of the last step to a resource, when the detail is owned. -/
def ownerGraph (d : DetailDefinition) (chain : List Property) (w : Walk) : Fresh (Option Expr) :=
  match chain.getLast? with
  | none => pure none
  | some owner =>
    if d.hasOwner then do
      let g ← graphOf w.previous owner (some w.target)
      pure (some g)
    else pure none

/-- The text of an instance : its parts with field separators between them. -/
def instanceExpr (parts : List Expr) : Expr :=
  match parts.intersperse (Expr.text (separator Packed.field)) with
  | [e] => e
  | es => Expr.concat es

/-- All instances of a detail reached along a chain. -/
def aggregate (d : DetailDefinition) (tokens : List Token) (chain : List Property) :
    Fresh Expr := do
  let w ← walk (startOf d) chain
  let graph ← ownerGraph d chain w
  let parts ← tokenExprs d w.target graph tokens
  pure (collect (instanceExpr parts) Packed.detail w.group)

/-- The columns of the sub-types of a detail : its chain, the last step changed. -/
def multiSubTypes (d : DetailDefinition) (tokens : List Token) :
    List Labelled → Fresh (List Expr)
  | [] => pure []
  | t :: ts => do
    let e ← aggregate d tokens (lastOver t.iri d.chain)
    let rest ← multiSubTypes d tokens ts
    pure (guarded d e :: rest)

/-- The column expressions of a detail that can be many, and their layout. -/
def multiColumns (d : DetailDefinition) (first : Nat) : Fresh (List Expr × MultiLayout) := do
  let tokens := tokensOf d
  let main ← aggregate d tokens d.chain
  let (subTypeField, types) := match d.propertySubTypes with
    | some (i, types) => (some i, types)
    | none => (none, [])
  let subTypes ← multiSubTypes d tokens types
  pure (guarded d main :: subTypes,
    ⟨first, tokens, subTypeField, subTypeColumns (first + 1) types⟩)

/-! ## All details -/

/-- The column expressions of a detail and what they hold. -/
def detailColumns (d : DetailDefinition) (first : Nat) : Fresh (List Expr × Layout) :=
  if d.unique then do
    let (es, layout) ← uniqueColumns d first
    pure (es, .unique layout)
  else do
    let (es, layout) ← multiColumns d first
    pure (es, .multi layout)

/-- Whether a detail gets columns when the details `wanted` are asked for. -/
def isBound (wanted : NameSet) (d : DetailDefinition) : Bool :=
  !d.computed && wanted.contains d.name && !d.fields.isEmpty

/-- The column expressions of details behind each other, and what belongs to which. -/
def bindDetails : List DetailDefinition → Nat → Fresh (List Expr × List Binding)
  | [], _ => pure ([], [])
  | d :: ds, first => do
    let (es, layout) ← detailColumns d first
    let (rest, bindings) ← bindDetails ds (first + es.length)
    pure (es ++ rest, ⟨d, first, first + es.length, layout⟩ :: bindings)

end ContactGraph.Query
