import ContactGraph.Query.Detail
import ContactGraph.Reading.IdCache
import ContactGraph.Schema.Coercion

/-!
# Values from cells

How the raw text of a field becomes a value. Instances and classes stand in cells by their ids; a
value outside the allowed texts gives way to the default; free properties add to what is there.
-/

namespace ContactGraph.Result

/-- The ids in a list of values. -/
def idsOf (raw : String) : List LocalId :=
  (Packed.listItems raw).filterMap fun s => Number.word? s.toList

/-- The known resources with the ids in a list of values. -/
def resourcesOf (ids : IdCache) (raw : String) : List Iri :=
  (idsOf raw).filterMap ids.iri?

/-- The value of labels : all of them for a list, else the first. -/
def labelsValue (type : ValueType) (labels : List String) : Option Value :=
  match type with
  | .list => some (.list labels)
  | _ => labels.head?.map .text

/-- The value of a field with instances; the default when none is known. -/
def instanceValue (ids : IdCache) (f : FieldDefinition) (raw : String) : Option Value :=
  match (resourcesOf ids raw).filterMap f.instanceLabel? with
  | [] => f.default
  | label :: labels => labelsValue f.type (label :: labels)

/-- The part of a value that is allowed; the default when nothing is. -/
def allowedValue (f : FieldDefinition) (v : Value) : Option Value :=
  if f.allowed.isEmpty then some v
  else
    match v with
    | .list items =>
      match items.filter f.allows with
      | [] => f.default
      | item :: rest => some (.list (item :: rest))
    | v => if f.allows v.toText then some v else f.default

/-- The value of a field from its raw text. An empty text is no value, and one that cannot be read
is none either. -/
def fieldValue (ids : IdCache) (f : FieldDefinition) (raw : String) : Option Value :=
  if raw = "" then none
  else if !f.instances.isEmpty then instanceValue ids f raw
  else
    match f.type.read? raw with
    | some v => allowedValue f v
    | none => none

/-- The value of a field for sub-types; the default, or an empty list, when no sub-type matches. -/
def subTypeValue (f : FieldDefinition) (labels : List String) : Option Value :=
  match labels with
  | label :: rest => labelsValue f.type (label :: rest)
  | [] =>
    match f.default, f.type with
    | some v, _ => some v
    | none, .list => some (.list [])
    | none, _ => none

/-- The value of a field for the sub-types whose classes are given by ids. -/
def classValue (ids : IdCache) (f : FieldDefinition) (raw : String) : Option Value :=
  match f.subTypes with
  | some (.byClass classes) =>
    subTypeValue f ((resourcesOf ids raw).filterMap fun iri =>
      (classes.find? (·.iri = iri)).map (·.label))
  | _ => none

/-- A detail with a field set, when there is a value for it. -/
def setIfSome (d : Detail) (field : String) : Option Value → Detail
  | some v => d.set field v
  | none => d

/-- A detail with the free properties of a field added, unless there are none or a value other
than a list is there. -/
def addCustom? (d : Detail) (f : FieldDefinition) (raw : String) : Option Detail :=
  match Packed.listItems raw with
  | [] => none
  | items =>
    match d.value? f.name with
    | some (.list there) => some (d.set f.name (.list (there ++ items)))
    | some _ => none
    | none =>
      match f.type.coerce (.list items) with
      | .ok v => some (d.set f.name v)
      | .error _ => none

end ContactGraph.Result
