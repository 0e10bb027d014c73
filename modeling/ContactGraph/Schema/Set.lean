import ContactGraph.Error
import ContactGraph.Schema.Definition

/-!
# Valid schemas and schema sets

A schema is valid when every detail can be queried : a detail with many instances has a resource to
tell them apart, and the sub-types of a unique detail are kept by property and have a property to
change. A schema set holds at most one schema for each type of contact.
-/

namespace ContactGraph

namespace DetailDefinition

/-- Why the sub-types of a field of a unique detail cannot be queried. -/
def uniqueFieldFault? (d : DetailDefinition) (f : FieldDefinition) : Option Rejection :=
  match f.subTypes with
  | some (.byClass _) => some (.classSubTypes d.name)
  | some (.byProperty _) =>
    if d.chain.isEmpty && f.chain.isEmpty then some (.noPropertyChain d.name f.name) else none
  | none => none

/-- Why a detail cannot be queried. -/
def fault? (d : DetailDefinition) : Option Rejection :=
  if d.unique then d.fields.findSome? d.uniqueFieldFault?
  else if !d.computed && d.chain.isEmpty then some (.noResourceChain d.name)
  else none

end DetailDefinition

namespace Schema

/-- Refuses a schema by the first detail that cannot be queried. -/
def check (s : Schema) : Except Rejection Unit :=
  match s.details.findSome? DetailDefinition.fault? with
  | some fault => .error fault
  | none => .ok ()

end Schema

/-- At most one schema for persons and one for groups. -/
structure SchemaSet where
  /-- The schema of persons. -/
  person : Option Schema
  /-- The schema of groups. -/
  group : Option Schema
  /-- The schema of persons is one of persons. -/
  person_type : ∀ s ∈ person, s.type = .person
  /-- The schema of groups is one of groups. -/
  group_type : ∀ s ∈ group, s.type = .group

namespace SchemaSet

/-- The set without schemas. -/
def empty : SchemaSet :=
  ⟨none, none, by simp, by simp⟩

instance : EmptyCollection SchemaSet := ⟨empty⟩

instance : Inhabited SchemaSet := ⟨empty⟩

/-- The set with one more schema, in place of the one for the same type. -/
def insert (set : SchemaSet) (s : Schema) : SchemaSet :=
  match h : s.type with
  | .person => { set with person := some s, person_type := by simpa using h }
  | .group => { set with group := some s, group_type := by simpa using h }

/-- The schema for a type of contact. -/
def get? (set : SchemaSet) : ContactType → Option Schema
  | .person => set.person
  | .group => set.group

/-- The schemas, that of persons first. -/
def toList (set : SchemaSet) : List Schema :=
  set.person.toList ++ set.group.toList

/-- Adds schemas to a set, up to the first that is not valid. -/
def addAll (set : SchemaSet) : List Schema → Except Rejection SchemaSet
  | [] => .ok set
  | s :: ss => do
    s.check
    addAll (set.insert s) ss

/-- The set of a list of schemas; the last one for a type counts. -/
def ofList (schemas : List Schema) : Except Rejection SchemaSet :=
  addAll ∅ schemas

end SchemaSet

end ContactGraph
