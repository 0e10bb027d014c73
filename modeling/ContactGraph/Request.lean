import ContactGraph.Filter
import ContactGraph.Sort.Order

/-!
# Requests

What a caller asks for : a filter, sort orders, and a hint about what is wanted of each contact.
-/

namespace ContactGraph

/-- What the caller wants of each contact. -/
structure FetchHint where
  /-- The wanted details; none means all. -/
  details : List String := []
  /-- The wanted relationships; none means all. -/
  relationships : List String := []
  /-- Whether relationships are not wanted at all. -/
  noRelationships : Bool := false
  /-- The most contacts to return. -/
  maxCount : Option Nat := none
  deriving DecidableEq, Repr, Inhabited

/-- Whether relationships of a type are wanted. -/
def FetchHint.wants (hint : FetchHint) (type : String) : Bool :=
  !hint.noRelationships && (hint.relationships.isEmpty || hint.relationships.contains type)

/-- A request for contacts. -/
structure Request where
  /-- Which contacts. -/
  filter : Filter := .everything
  /-- In which order. -/
  sorting : List SortOrder := []
  /-- With what. -/
  hint : FetchHint := {}

end ContactGraph
