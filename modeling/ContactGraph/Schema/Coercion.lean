import ContactGraph.Number.Reading
import ContactGraph.Result.Packed
import ContactGraph.Text.Blank
import ContactGraph.Text.Quoted
import ContactGraph.Time.Reading
import ContactGraph.Value

/-!
# Reading values of a type

`ValueType.decode` reads the raw text of a cell as a value of a declared type, and
`ValueType.coerce` turns any value into one of the type by way of its text. Numbers, truth values
and instants may have white space around them; a text takes the first of several packed values.
-/

namespace ContactGraph

/-- A text that is no value of a type. -/
structure ValueError where
  /-- The text. -/
  raw : String
  /-- The type it was read as. -/
  type : ValueType
  deriving DecidableEq, Repr, Inhabited

/-- What is said of a text that cannot be read. -/
def ValueError.message (e : ValueError) : String :=
  "cannot read " ++ Text.quoted e.raw ++ " as " ++ e.type.name

/-- Reads a timestamp, or else a date. -/
def Instant.ofText? (cs : List Char) : Option Instant :=
  match Time.ofTimestamp? cs with
  | some i => some i
  | none => Time.ofDay? cs

/-- Reads `true`, `false`, `1` or `0`. -/
def boolOf? (cs : List Char) : Option Bool :=
  let s := String.ofList cs
  if s = "true" || s = "1" then some true
  else if s = "false" || s = "0" then some false
  else none

namespace ValueType

/-- The value of a type that a text writes, if it writes one. -/
def read? (t : ValueType) (raw : String) : Option Value :=
  let trimmed := Text.trim raw.toList
  match t with
  | .text => some (.text ((Packed.listItems raw).headD ""))
  | .list => some (.list (Packed.listItems raw))
  | .instant => (Instant.ofText? trimmed).map .instant
  | .integer => (Number.signed? trimmed).map .integer
  | .double => (Double.ofText? trimmed).map .double
  | .bool => (boolOf? trimmed).map .bool
  | .url => some (.url raw)

/-- Reads a text as a value of a type. -/
def decode (t : ValueType) (raw : String) : Except ValueError Value :=
  match t.read? raw with
  | some v => .ok v
  | none => .error ⟨raw, t⟩

/-- Turns a value into one of a type. A list becomes a single value by its first item. -/
def coerce (t : ValueType) (v : Value) : Except ValueError Value :=
  match t, v with
  | .list, .list items => .ok (.list items)
  | .list, v => .ok (.list [v.toText])
  | t, .list items => t.decode (items.headD "")
  | t, v => t.decode v.toText

end ValueType

end ContactGraph
