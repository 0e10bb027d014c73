import ContactGraph.Number.Digits
import ContactGraph.Sort.Stable

/-!
# Packed cells

One cell of a result can hold many values. Details stand between `detail` separators, the fields
of a detail between `field` separators, and the values of a field between `list` separators; a
value can be followed by a `graph` separator and the graph it comes from. `orderedValues` reads
values that carry their position in front of a colon.
-/

namespace ContactGraph.Packed

/-- Between a value and the graph it comes from. -/
abbrev graph : Char := '\x1c'

/-- Between the values of a field. -/
abbrev list : Char := '\x1d'

/-- Between details. -/
abbrev detail : Char := '\x1e'

/-- Between the fields of a detail. -/
abbrev field : Char := '\x1f'

/-- The parts of a text between separators; at least one. -/
def parts (separator : Char) (s : String) : List String :=
  (s.toList.splitOn separator).map String.ofList

/-- The parts that are not empty. -/
def items (separator : Char) (s : String) : List String :=
  (parts separator s).filter (· ≠ "")

/-- The details of a cell. -/
def detailItems (s : String) : List String :=
  items detail s

/-- The fields of a detail. -/
def fields (s : String) : List String :=
  parts field s

/-- The values of a field. -/
def listItems (s : String) : List String :=
  items list s

/-- The texts before and after the first separator. -/
def splitOnce? (separator : Char) (s : String) : Option (String × String) :=
  let cs := s.toList
  match cs.dropWhile (· ≠ separator) with
  | [] => none
  | _ :: rest => some (String.ofList (cs.takeWhile (· ≠ separator)), String.ofList rest)

/-- A value and the graph it comes from. -/
def splitGraph? (s : String) : Option (String × String) :=
  splitOnce? graph s

/-- The texts with a separator between them. -/
def join (separator : Char) (texts : List String) : String :=
  String.intercalate (String.singleton separator) texts

/-- The largest position. -/
def lastPosition : Nat := Number.pow2 64 - 1

/-- Position and value of a tuple. A tuple without a position is a value at the last one. -/
def positioned (tuple : String) : Nat × String :=
  match splitOnce? ':' tuple with
  | none => (lastPosition, tuple)
  | some (position, value) =>
    match Number.unsigned? (Number.pow2 64) position.toList with
    | some n => (n, value)
    | none => (lastPosition, tuple)

/-- The values of a cell in the order of their positions; equal positions keep their order. -/
def orderedValues (s : String) : List String :=
  (Sort.stable (fun a b => a.1 < b.1) ((listItems s).map positioned)).map (·.2)

end ContactGraph.Packed
