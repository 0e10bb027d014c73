import ContactGraph.Contact.Basic

/-!
# Filters

Which contacts a fetch is about : conditions on ids, detail values, times of change and
relationships, combined by intersection and union.
-/

namespace ContactGraph

/-- How a text is compared with the text of a filter. -/
inductive MatchMode where
  /-- The texts are equal. -/
  | exactly
  /-- The text contains the other. -/
  | contains
  /-- The text starts with the other. -/
  | startsWith
  /-- The text ends with the other. -/
  | endsWith
  /-- The texts are equal, letter case included. -/
  | fixedString
  /-- The texts are phone numbers with the same local number. -/
  | phoneNumber
  deriving DecidableEq, Repr, Inhabited

namespace MatchMode

/-- The name a comparison goes by. -/
def name : MatchMode → String
  | .exactly => "exactly"
  | .contains => "contains"
  | .startsWith => "starts_with"
  | .endsWith => "ends_with"
  | .fixedString => "fixed_string"
  | .phoneNumber => "phone_number"

/-- A comparison by its name. -/
def ofName? (name : String) : Option MatchMode :=
  [MatchMode.exactly, .contains, .startsWith, .endsWith, .fixedString, .phoneNumber].find?
    (·.name = name)

end MatchMode

/-- How values are compared. -/
structure MatchFlags where
  /-- The comparison. -/
  mode : MatchMode := .exactly
  /-- Whether letter case matters. -/
  caseSensitive : Bool := false
  deriving DecidableEq, Repr, Inhabited

/-- Whether letter case is folded before comparing. -/
def MatchFlags.folds (flags : MatchFlags) : Bool :=
  !flags.caseSensitive && flags.mode != .fixedString

/-- Contacts with a detail, a field of it, or a value in it. -/
structure DetailFilter where
  /-- The detail. -/
  detail : String
  /-- The field; without one any field counts. -/
  field : Option String := none
  /-- The value; without one having the field or the detail is enough. -/
  value : Option Value := none
  /-- How the value is compared. -/
  flags : MatchFlags := {}
  deriving BEq

/-- Which ends of a range belong to it. -/
structure RangeFlags where
  /-- The lower end does not belong to the range. -/
  excludeLower : Bool := false
  /-- The upper end belongs to the range. -/
  includeUpper : Bool := false
  deriving DecidableEq, Repr, Inhabited

/-- Contacts with a value in a range. -/
structure RangeFilter where
  /-- The detail. -/
  detail : String
  /-- The field. -/
  field : String
  /-- The lower end. -/
  min : Option Value := none
  /-- The upper end. -/
  max : Option Value := none
  /-- Which ends belong to the range. -/
  range : RangeFlags := {}
  /-- How texts are compared. -/
  flags : MatchFlags := {}
  deriving BEq

/-- What can happen to a contact. -/
inductive ChangeEvent where
  /-- It was created. -/
  | added
  /-- It was modified. -/
  | changed
  /-- It was removed. -/
  | removed
  deriving DecidableEq, Repr, Inhabited

namespace ChangeEvent

/-- The name an event goes by. -/
def name : ChangeEvent → String
  | .added => "added"
  | .changed => "changed"
  | .removed => "removed"

/-- An event by its name. -/
def ofName? (name : String) : Option ChangeEvent :=
  [ChangeEvent.added, .changed, .removed].find? (·.name = name)

end ChangeEvent

/-- Contacts to which something happened since a point in time. -/
structure ChangeFilter where
  /-- What happened. -/
  event : ChangeEvent
  /-- Since when. -/
  since : Instant
  deriving DecidableEq

/-- The end of a relationship on which the related contact is. -/
inductive RelationshipRole where
  /-- The related contact is the group. -/
  | first
  /-- The related contact is the member. -/
  | second
  /-- Either end. -/
  | either
  deriving DecidableEq, Repr, Inhabited

namespace RelationshipRole

/-- The name a role goes by. -/
def name : RelationshipRole → String
  | .first => "first"
  | .second => "second"
  | .either => "either"

/-- A role by its name. -/
def ofName? (name : String) : Option RelationshipRole :=
  [RelationshipRole.first, .second, .either].find? (·.name = name)

end RelationshipRole

/-- Contacts related to another contact. -/
structure RelationshipFilter where
  /-- The name of the relationship. -/
  type : String
  /-- The other contact. -/
  contact : LocalId
  /-- Whose contact the other one is; without a name, one of this store. -/
  manager : Option String := none
  /-- The end on which the other contact is. -/
  role : RelationshipRole := .either
  deriving DecidableEq

/-- A condition on contacts. -/
inductive Filter where
  /-- Every contact. -/
  | everything
  /-- No contact. -/
  | nothing
  /-- The contacts with one of the ids. -/
  | ids (ids : List LocalId)
  /-- A condition on a detail. -/
  | detail (filter : DetailFilter)
  /-- A range of values. -/
  | range (filter : RangeFilter)
  /-- A change. -/
  | change (filter : ChangeFilter)
  /-- A relationship. -/
  | relationship (filter : RelationshipFilter)
  /-- All of the conditions. -/
  | intersection (filters : List Filter)
  /-- Any of the conditions. -/
  | union (filters : List Filter)

namespace Filter

instance : Inhabited Filter := ⟨.everything⟩

/-- Contacts with a value in a field. -/
def fieldIs (detail field : String) (value : Value) (flags : MatchFlags) : Filter :=
  .detail ⟨detail, some field, some value, flags⟩

/-- Contacts with a detail. -/
def hasDetail (detail : String) : Filter :=
  .detail ⟨detail, none, none, {}⟩

/-- Contacts related by membership to the contact `id`. -/
def hasMember (id : LocalId) (role : RelationshipRole) : Filter :=
  .relationship ⟨Relationship.hasMember, id, none, role⟩

/-- Both conditions; an intersection takes the other condition as one more part. -/
def and : Filter → Filter → Filter
  | .intersection filters, g => .intersection (filters ++ [g])
  | f, g => .intersection [f, g]

/-- Either condition; a union takes the other condition as one more part. -/
def or : Filter → Filter → Filter
  | .union filters, g => .union (filters ++ [g])
  | f, g => .union [f, g]

/-- Whether every contact matches by definition. -/
def isEverything : Filter → Bool
  | .everything => true
  | _ => false

end Filter

end ContactGraph
