import ContactGraph.Schema.Definition

/-!
# Building definitions

The definitions of fields and details are put together step by step, in any order and as often as
one likes. A field that loses its chain keeps its values as free properties. Until the definition of
a detail is done the way from the contact to the resource is one list. With a context the
affiliation step stands in front of it, and a new chain goes behind that step.
-/

namespace ContactGraph

/-! ## Fields -/

/-- One step of building the definition of a field. -/
inductive FieldStep where
  /-- Its value is reached along a chain. -/
  | reachedBy (chain : List Property)
  /-- A value stands in for a missing one. -/
  | withDefault (value : Value)
  /-- Its values may have these texts. -/
  | allowing (texts : List String)
  /-- Resources stand for its values. -/
  | withInstances (instances : List Labelled)
  /-- It is for sub-types. -/
  | withSubTypes (subTypes : SubTypes)
  /-- Values outside the chain are kept as free properties. -/
  | permittingCustomValues
  /-- There is no chain at all. -/
  | withoutMapping
  /-- Its value is computed after the fetch. -/
  | computed

namespace FieldDefinition

/-- The field after one more step, which replaces what an earlier one gave. Without a chain the
values can only be free properties, so they are permitted too. -/
def after (f : FieldDefinition) : FieldStep → FieldDefinition
  | .reachedBy chain => { f with chain := chain }
  | .withDefault value => { f with default := some value }
  | .allowing texts => { f with allowed := texts }
  | .withInstances instances => { f with instances := instances }
  | .withSubTypes subTypes => { f with subTypes := some subTypes }
  | .permittingCustomValues => { f with customValues := true }
  | .withoutMapping => { f with withoutMapping := true, customValues := true }
  | .computed => { f with computed := true }

/-- The field of a name and a type that some steps make. -/
def build (name : String) (type : ValueType) (steps : List FieldStep) : FieldDefinition :=
  steps.foldl after { name, type }

end FieldDefinition

/-! ## Details -/

/-- What a detail is to a contact. -/
inductive DetailKind where
  /-- A contact has at most one. -/
  | unique
  /-- A contact can have many. -/
  | many
  /-- It is computed from others. -/
  | computed (dependencies : List String)
  deriving DecidableEq, Repr, Inhabited

/-- The definition of a detail in the making. -/
structure DetailBuilder where
  /-- The detail. -/
  name : String
  /-- Whether a contact has at most one. -/
  unique : Bool
  /-- Whether it belongs to an affiliation. -/
  hasContext : Bool := false
  /-- Whether its values carry the graph they come from. -/
  hasOwner : Bool := false
  /-- Whether it is computed after the fetch. -/
  computed : Bool := false
  /-- The details that have to be fetched for it, itself included. -/
  dependencies : List String
  /-- The way from the contact to the resource of the detail, over the affiliation or not. -/
  resource : List Property := []
  /-- Its fields. -/
  fields : List FieldDefinition := []
  /-- The scheme its URIs are given. -/
  uriScheme : Option String := none
  deriving BEq

/-- One step of building a definition. -/
inductive BuildStep where
  /-- The detail is reached over the affiliation. -/
  | withContext
  /-- Its values come with their graphs. -/
  | owned
  /-- Its URIs are given a scheme. -/
  | withUriScheme (scheme : String)
  /-- It is reached along a chain. -/
  | reachedBy (chain : List Property)
  /-- It has one more field. -/
  | withField (f : FieldDefinition)

/-- The definition of a detail before any step. -/
def DetailKind.begin (kind : DetailKind) (name : String) : DetailBuilder :=
  match kind with
  | .unique => { name, unique := true, dependencies := [name] }
  | .many => { name, unique := false, dependencies := [name] }
  | .computed dependencies =>
    { name, unique := true, computed := true, dependencies := name :: dependencies }

namespace DetailBuilder

/-- The builder with another chain. With a context the first step of the way stays, and there has
to be one. -/
def reachedBy? (b : DetailBuilder) (chain : List Property) : Option DetailBuilder :=
  if b.hasContext then
    match b.resource with
    | [] => none
    | first :: _ => some { b with resource := first :: chain }
  else some { b with resource := chain }

/-- The builder after a step, unless the way lacks what the step builds on. -/
def step? (b : DetailBuilder) : BuildStep → Option DetailBuilder
  | .withContext =>
    if b.hasContext then some b
    else some { b with
      hasContext := true, resource := DetailDefinition.affiliationStep :: b.resource }
  | .owned => some { b with hasOwner := true }
  | .withUriScheme scheme => some { b with uriScheme := some scheme }
  | .reachedBy chain => b.reachedBy? chain
  | .withField f => some { b with fields := b.fields ++ [f] }

/-- The builder after some steps. -/
def run? (b : DetailBuilder) (steps : List BuildStep) : Option DetailBuilder :=
  steps.foldlM step? b

/-- The way from the affiliation, or from the contact without one. With a context there has to be a
first step, which is left out. -/
def chain? (b : DetailBuilder) : Option (List Property) :=
  if b.hasContext then
    match b.resource with
    | [] => none
    | _ :: chain => some chain
  else some b.resource

/-- The definition, once it is built. -/
def definition? (b : DetailBuilder) : Option DetailDefinition :=
  b.chain?.map fun chain =>
    { name := b.name, unique := b.unique, hasContext := b.hasContext, hasOwner := b.hasOwner,
      computed := b.computed, dependencies := b.dependencies, chain, fields := b.fields,
      uriScheme := b.uriScheme }

end DetailBuilder

end ContactGraph
