import ContactGraph.Contact.Detail
import ContactGraph.Result.Packed
import ContactGraph.Schema.Coercion
import ContactGraph.Settings

/-!
# Free details

Details without a definition share one cell. Each is its name followed by pairs of a field and the
values of that field, which carry their positions. The pairs of one field belong together wherever
they stand.
-/

namespace ContactGraph.Result

/-- Adds pairs of a field and its values to what the fields have. A last field without values and
fields without a name are left out. -/
def gatherPairs (fields : NameMap (List String)) : List String → NameMap (List String)
  | field :: values :: rest =>
    gatherPairs
      (if field = "" then fields
       else fields.insert field ((fields.get? field).getD [] ++ [values]))
      rest
  | _ => fields

/-- The value of several texts : none, one text or a list. -/
def textsValue : List String → Option Value
  | [] => none
  | [s] => some (.text s)
  | texts => some (.list texts)

/-- The value of a field, of the configured type when it can be read as one. -/
def customValue (settings : Settings) (detail field : String) (v : Value) : Value :=
  match settings.customType? detail field with
  | none => v
  | some type =>
    match type.coerce v with
    | .ok typed => typed
    | .error _ => v

/-- Sets a field of a detail to the values of its pairs. -/
def setCustom (settings : Settings) (d : Detail) (entry : String × List String) : Detail :=
  match textsValue (Packed.orderedValues (Packed.join Packed.list entry.2)) with
  | none => d
  | some v => d.set entry.1 (customValue settings d.name entry.1 v)

/-- One free detail, unless it has no fields or all are empty. -/
def readCustom (settings : Settings) (item : String) : Option Detail :=
  match Packed.fields item with
  | name :: first :: second :: rest =>
    let fields := gatherPairs ∅ (first :: second :: rest)
    let d := fields.entries.foldl (setCustom settings) { name := name }
    if d.isEmpty then none else some d
  | _ => none

/-- The free details in a cell. -/
def readCustoms (settings : Settings) (raw : String) : List Detail :=
  (Packed.detailItems raw).filterMap (readCustom settings)

end ContactGraph.Result
