import ContactGraph.Value

/-!
# Details

A detail is a named bag of field values : one phone number, one postal address, one presence.
Besides its values it may have a URI that identifies it, URIs of the details it is linked to, a
context such as `Home` or `Work`, and a mark that it comes from somewhere it cannot be changed.
-/

namespace ContactGraph

/-- One detail of a contact. -/
structure Detail where
  /-- What kind of detail this is. -/
  name : String
  /-- The values of its fields. -/
  values : NameMap Value := ∅
  /-- The URI that identifies it. -/
  uri : Option String := none
  /-- URIs of other details. -/
  links : List String := []
  /-- Where it applies. -/
  context : Option String := none
  /-- Whether it comes from a foreign source. -/
  readOnly : Bool := false
  deriving BEq

namespace Detail

instance : Inhabited Detail := ⟨⟨"", ∅, none, [], none, false⟩⟩

/-- The value of a field. -/
def value? (d : Detail) (field : String) : Option Value :=
  d.values.get? field

/-- The text of a field; empty without a value. -/
def text (d : Detail) (field : String) : String :=
  match d.value? field with
  | some v => v.toText
  | none => ""

/-- The detail with one field set. -/
def set (d : Detail) (field : String) (v : Value) : Detail :=
  { d with values := d.values.insert field v }

/-- The detail without one field. -/
def unset (d : Detail) (field : String) : Detail :=
  { d with values := d.values.erase field }

/-- Whether no field has anything in it. URI and links do not count. -/
def isEmpty (d : Detail) : Bool :=
  d.values.values.all Value.isEmpty

/-- The list with `uri` at its end, unless it has it. -/
def addUri (uris : List String) (uri : String) : List String :=
  if uris.contains uri then uris else uris ++ [uri]

/-- The detail linked to one more URI. -/
def link (d : Detail) (uri : String) : Detail :=
  { d with links := addUri d.links uri }

/-- The detail linked to the URIs of a list, one after the other. -/
def linkAll (d : Detail) (uris : List String) : Detail :=
  uris.foldl link d

end Detail

end ContactGraph
