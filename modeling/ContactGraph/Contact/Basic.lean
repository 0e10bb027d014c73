import ContactGraph.Contact.Detail
import ContactGraph.Error

/-!
# Contacts

A contact has an id, its details in order, and the relationships it takes part in. The operations
here save, take, clean and link details.
-/

namespace ContactGraph

/-- An edge between two contacts. -/
structure Relationship where
  /-- The group. -/
  first : LocalId
  /-- The member. -/
  second : LocalId
  /-- The name of the relationship. -/
  type : String
  deriving DecidableEq, Repr, Inhabited

namespace Relationship

/-- The name of the one relationship that is stored. -/
abbrev hasMember : String := "HasMember"

/-- A group has a member. -/
def membership (group member : LocalId) : Relationship :=
  ⟨group, member, hasMember⟩

end Relationship

/-- One person or group with all that is known of it. -/
structure Contact where
  /-- What identifies it. -/
  id : ContactId
  /-- Its details, in order. -/
  details : List Detail := []
  /-- Its relationships, in order. -/
  relationships : List Relationship := []
  deriving BEq

namespace Contact

instance : Inhabited Contact := ⟨⟨default, [], []⟩⟩

/-- The number of its resource. -/
def localId (c : Contact) : LocalId :=
  c.id.number

/-- The details of a name, in order. -/
def detailsNamed (c : Contact) (name : String) : List Detail :=
  c.details.filter (·.name = name)

/-- The first detail of a name. -/
def detail? (c : Contact) (name : String) : Option Detail :=
  c.details.find? (·.name = name)

/-- The contact with one more detail. -/
def save (c : Contact) (d : Detail) : Contact :=
  { c with details := c.details ++ [d] }

/-- The contact with one more detail of which it may have only one. Saving an equal detail again
changes nothing, and a different one is refused. -/
def saveUnique (c : Contact) (d : Detail) : Except Error Contact :=
  match c.detail? d.name with
  | none => .ok (c.save d)
  | some existing =>
    if existing == d then .ok c else .error (.duplicateUniqueDetail c.localId d.name)

/-- The contact without the details of a name. -/
def without (c : Contact) (name : String) : Contact :=
  { c with details := c.details.filter (·.name ≠ name) }

/-- The details of `ds` that equal none of `seen` nor an earlier one. -/
def distinctAfter (seen : List Detail) : List Detail → List Detail
  | [] => []
  | d :: ds =>
    if seen.any (· == d) then distinctAfter seen ds else d :: distinctAfter (seen ++ [d]) ds

/-- The contact with only the first of equal details. -/
def removeDuplicates (c : Contact) : Contact :=
  { c with details := distinctAfter [] c.details }

/-- The URIs of the details in `ds` that link to `target`, as often as they do, unless `target`
links to them already. -/
def backLinks (ds : List Detail) (target : Detail) : List String :=
  ds.flatMap fun source =>
    match source.uri with
    | none => []
    | some uri =>
      if target.links.contains uri then []
      else (source.links.filter fun link => target.uri = some link).map fun _ => uri

/-- The contact in which each detail links back to the details that link to it. -/
def closeLinks (c : Contact) : Contact :=
  { c with details := c.details.map fun d => d.linkAll (backLinks c.details d) }

/-- The contact with one more relationship, unless it has it. -/
def relate (c : Contact) (r : Relationship) : Contact :=
  if c.relationships.contains r then c else { c with relationships := c.relationships ++ [r] }

end Contact

end ContactGraph
