import ContactGraph.Result.Row
import ContactGraph.Schema.Coercion
import ContactGraph.Schema.Definition
import ContactGraph.Sort.Order

/-!
# Sort keys of ids

A query for ids brings the sort keys along as texts. They are read by the type of their field and
compared the way the store does : blanks are smallest, and everything turns round for a descending
order. Numbers, whole or not, compare as doubles.
-/

namespace ContactGraph

/-- A sort key as it comes from the store. -/
inductive SortKey where
  /-- No value. -/
  | blank
  /-- A number. -/
  | number (x : Double)
  /-- A point in time. -/
  | time (i : Instant)
  /-- Any other text. -/
  | text (s : String)
  deriving DecidableEq

namespace SortKey

/-- The key of a typed value. -/
def ofValue? : Value → Option SortKey
  | .integer i => some (.number (Double.ofInt i.toInt))
  | .double x => some (.number x)
  | .instant i => some (.time i)
  | _ => none

/-- Whether keys of a type are compared as what they are rather than as texts. -/
def isTyped : ValueType → Bool
  | .integer => true
  | .double => true
  | .instant => true
  | _ => false

/-- Reads the key of a cell. A text that is no value of the type is a text. -/
def read (cell : Option String) (type : ValueType) : SortKey :=
  match cell.filter (· ≠ "") with
  | none => .blank
  | some raw =>
    if isTyped type then (((type.read? raw).bind ofValue?).getD (.text raw)) else .text raw

/-- Keys of different kinds are ordered by their kind. -/
def rank : SortKey → Nat
  | .blank => 0
  | .number _ => 1
  | .time _ => 2
  | .text _ => 3

/-- Order of two keys. -/
def order : SortKey → SortKey → Ordering
  | .number a, .number b => a.order b
  | .time a, .time b => a.order b
  | .text a, .text b => compare a b
  | a, b => compare a.rank b.rank

/-- Order of two lists of keys by the first sort order that tells them apart. -/
def compareAll : List SortOrder → List SortKey → List SortKey → Ordering
  | o :: os, a :: as, b :: bs => (o.direction.apply (a.order b)).then (compareAll os as bs)
  | _, _, _ => .eq

end SortKey

/-- The type of the field that a sort order names; text for one without definition. -/
def Schema.keyType (s : Schema) (o : SortOrder) : ValueType :=
  match (s.detail? o.detail).bind (·.field? o.field) with
  | some f => f.type
  | none => .text

end ContactGraph
