import ContactGraph.Contact.Basic
import ContactGraph.Text.Case

/-!
# Sort orders

A sort order names a field and says how its values are ordered. Contacts are compared by a list of
sort orders, the first that tells them apart deciding. Contacts without a value stand where the
blank policy puts them, whatever the direction. Values of one type compare as such; values of
different types, and texts, compare by their text.
-/

namespace ContactGraph

/-- Whether smaller values come first. -/
inductive SortDirection where
  /-- Smaller values first. -/
  | ascending
  /-- Larger values first. -/
  | descending
  deriving DecidableEq, Repr, Inhabited

namespace SortDirection

/-- The name a direction goes by. -/
def name : SortDirection → String
  | .ascending => "ascending"
  | .descending => "descending"

/-- A direction by its name. -/
def ofName? (name : String) : Option SortDirection :=
  [SortDirection.ascending, .descending].find? (·.name = name)

end SortDirection

/-- Where contacts without a value stand. -/
inductive BlankPolicy where
  /-- In front of all others. -/
  | first
  /-- Behind all others. -/
  | last
  deriving DecidableEq, Repr, Inhabited

namespace BlankPolicy

/-- The name a policy goes by. -/
def name : BlankPolicy → String
  | .first => "first"
  | .last => "last"

/-- A policy by its name. -/
def ofName? (name : String) : Option BlankPolicy :=
  [BlankPolicy.first, .last].find? (·.name = name)

end BlankPolicy

/-- One key to sort by. -/
structure SortOrder where
  /-- The detail. -/
  detail : String
  /-- The field. -/
  field : String
  /-- Whether smaller values come first. -/
  direction : SortDirection := .ascending
  /-- Whether letter case matters. -/
  caseSensitive : Bool := true
  /-- Where contacts without a value stand. -/
  blanks : BlankPolicy := .last
  deriving DecidableEq, Repr, Inhabited

/-- An ordering, turned round for a descending direction. -/
def SortDirection.apply (d : SortDirection) (o : Ordering) : Ordering :=
  match d with
  | .ascending => o
  | .descending => o.swap

/-- How a blank compares with a value. -/
def BlankPolicy.blankFirst : BlankPolicy → Ordering
  | .first => .lt
  | .last => .gt

namespace Value

/-- Order of two texts, by their characters. -/
def compareTexts (caseSensitive : Bool) (a b : String) : Ordering :=
  if caseSensitive then compare a b else compare (Text.lowercase a) (Text.lowercase b)

/-- Order of two values. -/
def order (caseSensitive : Bool) : Value → Value → Ordering
  | .integer a, .integer b => compare a b
  | .double a, .double b => a.order b
  | .instant a, .instant b => a.order b
  | .bool a, .bool b => compare a b
  | a, b => compareTexts caseSensitive a.toText b.toText

end Value

namespace SortOrder

/-- The value a contact is sorted by : that of the first detail with the field, unless it is empty.
-/
def key? (o : SortOrder) (c : Contact) : Option Value :=
  ((c.detailsNamed o.detail).findSome? (·.value? o.field)).filter fun v => !v.isEmpty

/-- Order of two keys. -/
def compareKeys (o : SortOrder) : Option Value → Option Value → Ordering
  | none, none => .eq
  | none, some _ => o.blanks.blankFirst
  | some _, none => o.blanks.blankFirst.swap
  | some a, some b => o.direction.apply (a.order o.caseSensitive b)

/-- Order of two contacts by one key. -/
def compareBy (o : SortOrder) (a b : Contact) : Ordering :=
  o.compareKeys (o.key? a) (o.key? b)

end SortOrder

namespace Contact

/-- Order of two contacts by the first sort order that tells them apart. -/
def order : List SortOrder → Contact → Contact → Ordering
  | [], _, _ => .eq
  | o :: os, a, b => (o.compareBy a b).then (order os a b)

end Contact

end ContactGraph
