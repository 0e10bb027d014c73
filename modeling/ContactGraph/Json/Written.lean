import ContactGraph.Json.Basic
import ContactGraph.Number.Shortest

/-!
# Writing JSON

JSON on one line without blanks. A double is written by its shortest digits and an exponent, so
that it reads back as the same double and never as a whole number; what is not a finite number is
written as null. Control characters are escaped by their code.
-/

namespace ContactGraph.Json

/-- How one character stands inside a text. -/
def writeChar (c : Char) : List Char :=
  if c = '"' then ['\\', '"']
  else if c = '\\' then ['\\', '\\']
  else if c.toNat < 0x20 ∨ c.toNat = 0x7f then
    ['\\', 'u', '0', '0', Nat.digitChar (c.toNat / 16), Nat.digitChar (c.toNat % 16)]
  else [c]

/-- A text between double quotes. -/
def writeText (s : String) : List Char :=
  '"' :: s.toList.flatMap writeChar ++ ['"']

/-- A double : sign, digits and exponent. -/
def writeDouble (x : Double) : List Char :=
  match x.decimal? with
  | none => "null".toList
  | some d =>
    (if x.isNegative then ['-'] else []) ++ Number.natDigits d.digits ++
      (if d.digits = 0 then ['.', '0'] else 'e' :: Number.intDigits d.exponent)

mutual

/-- The characters of a value. -/
def write : Json → List Char
  | .null => "null".toList
  | .bool b => if b then "true".toList else "false".toList
  | .integer i => Number.intDigits i
  | .double x => writeDouble x
  | .text s => writeText s
  | .array [] => ['[', ']']
  | .array (j :: js) => '[' :: write j ++ writeItems js
  | .object [] => ['\x7b', '\x7d']
  | .object ((name, j) :: ms) => '\x7b' :: writeText name ++ ':' :: write j ++ writeMembers ms

/-- The items of an array behind its first, and the closing bracket. -/
def writeItems : List Json → List Char
  | [] => [']']
  | j :: js => ',' :: write j ++ writeItems js

/-- The members of an object behind its first, and the closing brace. -/
def writeMembers : List (String × Json) → List Char
  | [] => ['\x7d']
  | (name, j) :: ms => ',' :: writeText name ++ ':' :: write j ++ writeMembers ms

end

/-- The text of a value. -/
def toLine (j : Json) : String :=
  String.ofList j.write

end ContactGraph.Json
