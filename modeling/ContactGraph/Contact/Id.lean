/-!
# What identifies contacts

A contact is a person or a group, and the triple store knows its resource by a number. One resource
can be both, so the number says which contact is meant only together with the type.
-/

namespace ContactGraph

/-- Persons and groups. -/
inductive ContactType where
  /-- A person. -/
  | person
  /-- A group of persons. -/
  | group
  deriving DecidableEq, Repr, Inhabited

namespace ContactType

/-- The name a contact type goes by. -/
def name : ContactType → String
  | .person => "person"
  | .group => "group"

/-- The contact type with the given name. -/
def ofName? (name : String) : Option ContactType :=
  [ContactType.person, .group].find? (·.name = name)

end ContactType

/-- The number by which the triple store knows a resource. -/
abbrev LocalId := UInt32

/-- What identifies a contact. -/
structure ContactId where
  /-- Person or group. -/
  type : ContactType
  /-- The number of its resource. -/
  number : LocalId
  deriving DecidableEq, Repr, Inhabited

end ContactGraph
