import ContactGraph.Contact.Basic
import ContactGraph.Vocabulary

/-!
# Schemas

A schema says which details a type of contact has and where the store keeps the values of their
fields : along a chain of properties, from the contact or its affiliation to the resource of a
detail, and from there to the value. The chain of a detail never holds the affiliation step; a
detail with a context has it in front of its chain.
-/

namespace ContactGraph

/-- One step of a chain. -/
structure Property where
  /-- The property. -/
  iri : Iri
  /-- Whether it is walked from object to subject. -/
  inverse : Bool := false
  /-- Whether its object identifies the detail. -/
  identifies : Bool := false
  deriving DecidableEq, Repr, Inhabited

/-- The same step over another property. -/
def Property.along (p : Property) (iri : Iri) : Property :=
  { p with iri := iri }

/-- A chain whose last step goes over another property. -/
def lastOver (iri : Iri) : List Property → List Property
  | [] => []
  | [p] => [p.along iri]
  | p :: q :: ps => p :: lastOver iri (q :: ps)

/-- A resource with the label it stands for : a value, a class or a property. -/
structure Labelled where
  /-- The resource. -/
  iri : Iri
  /-- What it stands for. -/
  label : String
  deriving DecidableEq, Repr, Inhabited

/-- Where the sub-type of a detail is kept. -/
inductive SubTypes where
  /-- The resource of the detail has the class. -/
  | byClass (classes : List Labelled)
  /-- The resource of the detail is reached over the property. -/
  | byProperty (properties : List Labelled)
  deriving DecidableEq, Repr, Inhabited

/-- What is known of a field. -/
structure FieldDefinition where
  /-- The field. -/
  name : String
  /-- The type of its values. -/
  type : ValueType
  /-- The way from the resource of the detail to the value; none when the resource is the value. -/
  chain : List Property := []
  /-- The value that stands in for a missing one. -/
  default : Option Value := none
  /-- The texts a value may have; none means any. -/
  allowed : List String := []
  /-- Resources that stand for values. -/
  instances : List Labelled := []
  /-- Where sub-types are kept, when the field is for them. -/
  subTypes : Option SubTypes := none
  /-- Whether values outside the chain are kept as free properties. -/
  customValues : Bool := false
  /-- Whether there is no chain at all. -/
  withoutMapping : Bool := false
  /-- Whether the value is computed after the fetch. -/
  computed : Bool := false
  deriving BEq

namespace FieldDefinition

instance : Inhabited FieldDefinition := ⟨{ name := "", type := .text }⟩

/-- Whether the field takes its value from the property a resource is reached over. -/
def byProperty (f : FieldDefinition) : Bool :=
  match f.subTypes with
  | some (.byProperty _) => true
  | _ => false

/-- Whether the field takes its value from the classes of a resource. -/
def byClass (f : FieldDefinition) : Bool :=
  match f.subTypes with
  | some (.byClass _) => true
  | _ => false

/-- Whether a value may have the text. -/
def allows (f : FieldDefinition) (text : String) : Bool :=
  f.allowed.isEmpty || f.allowed.contains text

/-- Whether some step is walked backwards. -/
def hasInverse (f : FieldDefinition) : Bool :=
  f.chain.any (·.inverse)

/-- The label of an instance. -/
def instanceLabel? (f : FieldDefinition) (iri : Iri) : Option String :=
  (f.instances.find? (·.iri = iri)).map (·.label)

end FieldDefinition

/-- What is known of a detail. -/
structure DetailDefinition where
  /-- The detail. -/
  name : String
  /-- Whether a contact has at most one. -/
  unique : Bool
  /-- Whether it belongs to an affiliation, whose label is its context. -/
  hasContext : Bool := false
  /-- Whether its values carry the graph they come from. -/
  hasOwner : Bool := false
  /-- Whether it is computed after the fetch. -/
  computed : Bool := false
  /-- The details that have to be fetched for it, itself included. -/
  dependencies : List String
  /-- The way from the contact or its affiliation to the resource of the detail. -/
  chain : List Property := []
  /-- Its fields. -/
  fields : List FieldDefinition := []
  /-- The scheme its URIs are given. -/
  uriScheme : Option String := none
  deriving BEq

namespace DetailDefinition

instance : Inhabited DetailDefinition := ⟨{ name := "", unique := true, dependencies := [] }⟩

/-! ## Building definitions -/

/-- A detail of which a contact has at most one. -/
def ofUnique (name : String) : DetailDefinition :=
  { name, unique := true, dependencies := [name] }

/-- A detail of which a contact can have many. -/
def ofMany (name : String) : DetailDefinition :=
  { name, unique := false, dependencies := [name] }

/-- A detail that is computed from others. -/
def ofComputed (name : String) (dependencies : List String) : DetailDefinition :=
  { name, unique := true, computed := true, dependencies := name :: dependencies }

/-- The detail, reached over the affiliation. -/
def withContext (d : DetailDefinition) : DetailDefinition :=
  { d with hasContext := true }

/-- The detail, with the graphs of its values. -/
def owned (d : DetailDefinition) : DetailDefinition :=
  { d with hasOwner := true }

/-- The detail, its URIs given a scheme. -/
def withUriScheme (d : DetailDefinition) (scheme : String) : DetailDefinition :=
  { d with uriScheme := some scheme }

/-- The detail, reached along a chain. -/
def reachedBy (d : DetailDefinition) (chain : List Property) : DetailDefinition :=
  { d with chain := chain }

/-- The detail with one more field. -/
def withField (d : DetailDefinition) (f : FieldDefinition) : DetailDefinition :=
  { d with fields := d.fields ++ [f] }

/-! ## Reading definitions -/

/-- The step from a contact to its affiliation. -/
def affiliationStep : Property :=
  { iri := Vocabulary.Nco.hasAffiliation }

/-- The way from the contact to the resource of the detail. -/
def fullChain (d : DetailDefinition) : List Property :=
  if d.hasContext then affiliationStep :: d.chain else d.chain

/-- The field of a name. -/
def field? (d : DetailDefinition) (name : String) : Option FieldDefinition :=
  d.fields.find? (·.name = name)

/-- The first field whose sub-types are kept by property, with its place and its sub-types. -/
def propertySubTypes (d : DetailDefinition) : Option (Nat × List Labelled) :=
  d.fields.zipIdx.findSome? fun (f, i) =>
    match f.subTypes with
    | some (.byProperty properties) => some (i, properties)
    | _ => none

/-- Whether the last step to the resource identifies the detail. -/
def hasUri (d : DetailDefinition) : Bool :=
  d.chain.getLast?.any (·.identifies)

/-- Whether the affiliation is the resource of the detail. -/
def isAffiliation (d : DetailDefinition) : Bool :=
  d.hasContext && d.chain.isEmpty

end DetailDefinition

/-- The details of a type of contact. -/
structure Schema where
  /-- The type of contact. -/
  type : ContactType
  /-- The classes of every contact of this type. -/
  classes : List Iri := []
  /-- The details. -/
  details : List DetailDefinition := []
  deriving BEq

namespace Schema

instance : Inhabited Schema := ⟨{ type := .person }⟩

/-- The detail of a name. -/
def detail? (s : Schema) (name : String) : Option DetailDefinition :=
  s.details.find? (·.name = name)

/-- The resources a field names. -/
def fieldResources (f : FieldDefinition) : List Iri :=
  f.instances.map (·.iri) ++
    match f.subTypes with
    | some (.byClass classes) => classes.map (·.iri)
    | _ => []

/-- Every resource whose id has to be known to read results, each once and in order. -/
def resources (s : Schema) : List Iri :=
  (NameSet.ofNames
    (s.classes ++ s.details.flatMap fun d => d.fields.flatMap fieldResources)).keys

end Schema

end ContactGraph
