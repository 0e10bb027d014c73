import ContactGraph.Contact.Basic
import ContactGraph.Json.Basic
import ContactGraph.Time.Reading

/-!
# Contacts as JSON

How values, details, relationships and contacts are written as JSON and read from it. Each
`ofJson?` reads what the `toJson` beside it writes, except for doubles that are not finite, for
which JSON has no number. Reading is lenient : a record may be an array of its members, a word of a
fixed set may be the name of a null, a detail may leave out its URI and its context, and an instant
may be written in any of the loose forms of `Time.Reading`.
-/

namespace ContactGraph

namespace Json

/-- A text or null. -/
def ofText? : Option String → Json
  | some s => .text s
  | none => .null

/-- Texts in order. -/
def ofTexts (texts : List String) : Json :=
  .array (texts.map .text)

/-- A natural number. -/
def ofNat (n : Nat) : Json :=
  .integer n

/-- A word of 32 bits. -/
def ofWord (w : UInt32) : Json :=
  ofNat w.toNat

/-- The names of a map with their values. -/
def ofMap {α : Type} (write : α → Json) (m : NameMap α) : Json :=
  .object (m.entries.map fun e => (e.1, write e.2))

/-- A point in time. -/
def instant? (j : Json) : Option Instant :=
  j.text?.bind fun s => Time.ofLooseTimestamp? s.toList

end Json

open Json

namespace ValueType

/-- A type is written by its name. -/
def ofJson? : Json → Option ValueType :=
  named? ofName?

/-- A type by its name. -/
def toJson (t : ValueType) : Json :=
  .text t.name

end ValueType

/-- A contact type by its name. -/
def ContactType.ofJson? : Json → Option ContactType :=
  named? ofName?

namespace Value

/-- A value, after its type; what may stand beside the name of the type is up to `isEmpty`. -/
def readBy? (isEmpty : Json → Bool) (j : Json) : Option Value := do
  let j ← j.record? ["type", "value"]
  match ← j.required "type" (namedBy? isEmpty ValueType.ofName?) with
  | .text => (j.required "value" text?).map .text
  | .list => (j.required "value" texts?).map .list
  | .instant => (j.required "value" instant?).map .instant
  | .integer => (j.required "value" integer?).map .integer
  | .double => (j.required "value" double?).map .double
  | .bool => (j.required "value" bool?).map .bool
  | .url => (j.required "value" text?).map .url

/-- A value, after its type. -/
def ofJson? : Json → Option Value :=
  readBy? isNull

/-- The value without its type. -/
def inner : Value → Json
  | .text s => .text s
  | .url s => .text s
  | .list items => ofTexts items
  | .instant i => .text i.stamp
  | .integer i => .integer i.toInt
  | .double x => .double x
  | .bool b => .bool b

/-- A value with its type. -/
def toJson (v : Value) : Json :=
  .object [("type", v.type.toJson), ("value", v.inner)]

end Value

namespace Detail

/-- A detail; URI and context may be missing. -/
def ofJson? (j : Json) : Option Detail := do
  let j ← j.record? ["name", "values", "detail_uri", "linked_uris", "context", "read_only"]
  pure {
    name := ← j.required "name" text?
    values := ← j.required "values" (map? Value.ofJson?)
    uri := ← j.optional "detail_uri" text?
    links := ← j.required "linked_uris" texts?
    context := ← j.optional "context" text?
    readOnly := ← j.required "read_only" bool? }

/-- A detail with all its members. -/
def toJson (d : Detail) : Json :=
  .object [("name", .text d.name), ("values", ofMap Value.toJson d.values),
    ("detail_uri", Json.ofText? d.uri), ("linked_uris", ofTexts d.links),
    ("context", Json.ofText? d.context), ("read_only", .bool d.readOnly)]

end Detail

namespace ContactId

/-- A contact type and a number. -/
def ofJson? (j : Json) : Option ContactId := do
  let j ← j.record? ["contact_type", "local_id"]
  pure ⟨← j.required "contact_type" ContactType.ofJson?, ← j.required "local_id" word?⟩

/-- A contact type and a number. -/
def toJson (id : ContactId) : Json :=
  .object [("contact_type", .text id.type.name), ("local_id", ofWord id.number)]

end ContactId

namespace Relationship

/-- Both ends and the name. -/
def ofJson? (j : Json) : Option Relationship := do
  let j ← j.record? ["first", "second", "relationship_type"]
  pure ⟨← j.required "first" word?, ← j.required "second" word?,
    ← j.required "relationship_type" text?⟩

/-- Both ends and the name. -/
def toJson (r : Relationship) : Json :=
  .object [("first", ofWord r.first), ("second", ofWord r.second),
    ("relationship_type", .text r.type)]

end Relationship

namespace Contact

/-- A contact with all its members. -/
def ofJson? (j : Json) : Option Contact := do
  let j ← j.record? ["id", "details", "relationships"]
  pure ⟨← j.required "id" ContactId.ofJson?, ← j.required "details" (list? Detail.ofJson?),
    ← j.required "relationships" (list? Relationship.ofJson?)⟩

/-- A contact with all its members. -/
def toJson (c : Contact) : Json :=
  .object [("id", c.id.toJson), ("details", .array (c.details.map Detail.toJson)),
    ("relationships", .array (c.relationships.map Relationship.toJson))]

end Contact

end ContactGraph
