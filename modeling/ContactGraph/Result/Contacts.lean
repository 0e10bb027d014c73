import ContactGraph.Query.Plan
import ContactGraph.Result.Custom
import ContactGraph.Result.Instance

/-!
# Contacts from results

Each row tells something about one contact; rows of one contact add up, and contacts stand in the
order of their first rows. With a limit, reading stops at the first row of the contact that would
be one too many.
-/

namespace ContactGraph.Result

open Query

/-- The affiliation of a row. -/
def affiliationOf (row : Row) : Affiliation :=
  ⟨row.url? contextColumn, row.text contextLabelColumn⟩

/-- Adds the columns of one detail to a contact. A row too short for them adds nothing, nor does one
without an affiliation when the detail needs one; nor does a unique detail that contradicts the one
that is there. -/
def addBinding (frame : Frame) (row : Row) (c : Contact) (b : Binding) : Contact :=
  let affiliation := affiliationOf row
  if row.length < b.last then c
  else if b.detail.hasContext && affiliation.iri.isNone then c
  else
    match b.layout with
    | .unique layout =>
      match readUnique frame b.detail layout row affiliation with
      | some d => (c.saveUnique d).toOption.getD c
      | none => c
    | .multi layout => (readMulti frame b.detail layout row affiliation).foldl Contact.save c

/-- Adds the relationships of a row to a contact : its groups, then its members. -/
def addRelationships (row : Row) (columns : RelationshipColumns) (c : Contact) : Contact :=
  let groups := (idsOf (row.text columns.groups)).map (Relationship.membership · c.localId)
  let members := match columns.members with
    | some column => (idsOf (row.text column)).map (Relationship.membership c.localId)
    | none => []
  (groups ++ members).foldl Contact.relate c

/-- Adds all that a row tells to a contact. -/
def addRow (frame : Frame) (plan : Plan) (row : Row) (c : Contact) : Contact :=
  let c := plan.bindings.foldl (addBinding frame row) c
  let c := match plan.customColumn with
    | some column => (readCustoms frame.settings (row.text column)).foldl Contact.save c
    | none => c
  match plan.relationships with
  | some columns => addRelationships row columns c
  | none => c

/-- What the rows read so far tell. -/
structure Gathered where
  /-- The contacts, in the order of their first rows. -/
  contacts : List Contact := []
  /-- Where the contact of each id stands. -/
  places : List (LocalId × Nat) := []
  /-- The ids, in the order of their first rows. -/
  ids : List LocalId := []

namespace Gathered

/-- With one more contact, of which nothing is known yet. -/
def start (g : Gathered) (id : ContactId) : Gathered :=
  ⟨g.contacts ++ [{ id := id }], (id.number, g.contacts.length) :: g.places, g.ids ++ [id.number]⟩

/-- With the contact at a place changed. -/
def change (g : Gathered) (place : Nat) (f : Contact → Contact) : Gathered :=
  { g with contacts := g.contacts.modify place f }

end Gathered

/-- Adds rows to what there is, up to a limit of contacts. Rows without an id are skipped. -/
def readRows (frame : Frame) (plan : Plan) (limit : Option Nat) : Gathered → Table → Gathered
  | g, [] => g
  | g, row :: rows =>
    match row.id? idColumn with
    | none => readRows frame plan limit g rows
    | some id =>
      match g.places.lookup id with
      | some place => readRows frame plan limit (g.change place (addRow frame plan row)) rows
      | none =>
        if limit.any (· ≤ g.contacts.length) then g
        else
          readRows frame plan limit
            ((g.start ⟨plan.schema.type, id⟩).change g.contacts.length (addRow frame plan row)) rows

/-- What a result tells. A canceled request gives nothing as soon as there is a row to read. -/
def gather (frame : Frame) (plan : Plan) (limit : Option Nat) (canceled : Bool) (table : Table) :
    Except Error Gathered :=
  if canceled && !table.isEmpty then .error .canceled
  else .ok (readRows frame plan limit {} table)

/-- The contacts of a result. -/
def contacts (frame : Frame) (plan : Plan) (limit : Option Nat) (canceled : Bool) (table : Table) :
    Except Error (List Contact) :=
  (gather frame plan limit canceled table).map (·.contacts)

end ContactGraph.Result
