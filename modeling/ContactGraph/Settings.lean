import ContactGraph.Error
import ContactGraph.Value

/-!
# Settings

What can be configured about reading contacts.
-/

namespace ContactGraph

/-- How a full name is put together. -/
inductive NameOrder where
  /-- The given name first. -/
  | firstLast
  /-- The family name first. -/
  | lastFirst
  deriving DecidableEq, Repr, Inhabited

namespace NameOrder

/-- The name an order goes by. -/
def name : NameOrder → String
  | .firstLast => "first_last"
  | .lastFirst => "last_first"

/-- An order by its name. -/
def ofName? (name : String) : Option NameOrder :=
  [NameOrder.firstLast, .lastFirst].find? (·.name = name)

end NameOrder

/-- The configuration of a store. -/
structure Settings where
  /-- The name under which others know this store. -/
  managerUri : String := "org.kith.rdf"
  /-- The graph of values that may be changed. -/
  defaultGraph : String := "urn:uuid:08070f5c-a334-4d19-a8b0-12a3071bfab9"
  /-- How many last digits of phone numbers are compared. -/
  phoneDigits : Nat := 7
  /-- How full names are put together. -/
  nameOrder : NameOrder := .firstLast
  /-- Whether a nickname is preferred to the full name. -/
  preferNickname : Bool := false
  /-- How the names of graphs start whose details are linked to their values. -/
  linkedGraphStart : String := "telepathy:"
  /-- Whether the owner's own contact is fetched too. -/
  includeSelf : Bool := false
  /-- Types of fields of custom details, by detail and field with a point between them. -/
  customTypes : NameMap ValueType := ∅

namespace Settings

instance : Inhabited Settings := ⟨{}⟩

/-- Refuses settings that make no sense. -/
def check (s : Settings) : Except Rejection Unit :=
  if s.phoneDigits = 0 then .error .noPhoneDigits
  else if s.defaultGraph = "" then .error .noDefaultGraph
  else .ok ()

/-- The type of a field of a custom detail, when one is configured. -/
def customType? (s : Settings) (detail field : String) : Option ValueType :=
  s.customTypes.get? (detail ++ "." ++ field)

end Settings

end ContactGraph
