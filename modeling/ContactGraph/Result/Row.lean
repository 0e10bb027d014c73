import ContactGraph.Contact.Basic
import ContactGraph.Number.Digits
import ContactGraph.Text.Blank

/-!
# Rows

A result is a list of rows, a row a list of cells, and a cell a text or nothing.
-/

namespace ContactGraph

/-- The cells of a row. -/
abbrev Row := List (Option String)

/-- The rows of a result. -/
abbrev Table := List Row

namespace Row

/-- The text of a cell; nothing when it is unbound or behind the last one. -/
def cell? (r : Row) (column : Nat) : Option String :=
  (r[column]?).join

/-- The text of a cell; empty when there is none. -/
def text (r : Row) (column : Nat) : String :=
  (r.cell? column).getD ""

/-- The id in a cell. -/
def id? (r : Row) (column : Nat) : Option LocalId :=
  (r.cell? column).bind fun s => Number.word? (Text.trim s.toList)

/-- The text of a cell, unless it is empty. -/
def url? (r : Row) (column : Nat) : Option String :=
  (r.cell? column).filter (· ≠ "")

end Row

end ContactGraph
