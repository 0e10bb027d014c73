import ContactGraph.NameMap
import ContactGraph.Number.Shortest
import ContactGraph.Time.Written

/-!
# Field values

The typed values that the fields of a detail hold, and their text. Only texts, lists of texts and
URLs can be empty.
-/

namespace ContactGraph

/-- The types a field can have. -/
inductive ValueType where
  /-- Free text. -/
  | text
  /-- Several texts. -/
  | list
  /-- A point in time. -/
  | instant
  /-- A whole number of 64 bits. -/
  | integer
  /-- A double precision number. -/
  | double
  /-- Yes or no. -/
  | bool
  /-- A URL. -/
  | url
  deriving DecidableEq, Repr, Inhabited

namespace ValueType

/-- The name a type goes by. -/
def name : ValueType → String
  | .text => "string"
  | .list => "string_list"
  | .instant => "date_time"
  | .integer => "integer"
  | .double => "double"
  | .bool => "bool"
  | .url => "url"

/-- Every type. -/
def all : List ValueType :=
  [.text, .list, .instant, .integer, .double, .bool, .url]

/-- The type with the given name. -/
def ofName? (name : String) : Option ValueType :=
  all.find? (·.name = name)

end ValueType

/-- The value of a field. -/
inductive Value where
  /-- Free text. -/
  | text (s : String)
  /-- Several texts. -/
  | list (items : List String)
  /-- A point in time. -/
  | instant (i : Instant)
  /-- A whole number of 64 bits. -/
  | integer (i : Int64)
  /-- A double precision number, compared as a number. -/
  | double (x : Double)
  /-- Yes or no. -/
  | bool (b : Bool)
  /-- A URL. -/
  | url (s : String)
  deriving BEq

namespace Value

instance : Inhabited Value := ⟨.text ""⟩

/-- The type of a value. -/
def type : Value → ValueType
  | .text _ => .text
  | .list _ => .list
  | .instant _ => .instant
  | .integer _ => .integer
  | .double _ => .double
  | .bool _ => .bool
  | .url _ => .url

/-- Whether a text, a URL or a list has nothing in it. -/
def isEmpty : Value → Bool
  | .text s => s = ""
  | .url s => s = ""
  | .list items => items.isEmpty
  | _ => false

/-- The text of a truth value. -/
def boolText (b : Bool) : String :=
  if b then "true" else "false"

/-- The text a value is matched and shown by; the items of a list are parted by commas. -/
def toText : Value → String
  | .text s => s
  | .url s => s
  | .list items => String.intercalate ", " items
  | .instant i => i.text
  | .integer i => String.ofList (Number.intDigits i.toInt)
  | .double x => String.ofList x.text
  | .bool b => boolText b

/-- The text of a text or a URL. -/
def asText? : Value → Option String
  | .text s => some s
  | .url s => some s
  | _ => none

/-- The items of a list. -/
def asList? : Value → Option (List String)
  | .list items => some items
  | _ => none

/-- The point in time of an instant. -/
def asInstant? : Value → Option Instant
  | .instant i => some i
  | _ => none

end Value

end ContactGraph
