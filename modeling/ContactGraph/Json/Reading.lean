import ContactGraph.Json.Basic
import ContactGraph.Number.Reading

/-!
# Reading JSON

`Json.parse?` reads a whole text as one JSON value. Every step takes the characters from a place
on and returns those behind what it read; `steps` bounds how far the reading can go, and twice
the length of the text is enough, because no two steps in a row leave the text as it is. Arrays and
objects that stand in more than `depthLimit` levels are not read.

Characters beyond the basic plane may be escaped as a pair of surrogates; a surrogate that stands
alone is no text. A number is whole when it is written without point and exponent; minus zero is a
double. A number too large for a double is not read.
-/

namespace ContactGraph.Json

/-! ## Texts -/

/-- Without blanks in front. -/
def skipBlank (cs : List Char) : List Char :=
  cs.dropWhile fun c => c = ' ' || c = '\t' || c = '\n' || c = '\r'

/-- The value of a hexadecimal digit. -/
def hexDigit? (c : Char) : Option Nat :=
  if c.isDigit then some (c.toNat - '0'.toNat)
  else if 'a' ≤ c ∧ c ≤ 'f' then some (c.toNat - 'a'.toNat + 10)
  else if 'A' ≤ c ∧ c ≤ 'F' then some (c.toNat - 'A'.toNat + 10)
  else none

/-- The number that hexadecimal digits write. -/
def hex? (cs : List Char) : Option Nat :=
  cs.foldlM (fun n c => (hexDigit? c).map (16 * n + ·)) 0

/-- The character for the letter of a short escape. -/
def shortEscape? : Char → Option Char
  | '"' => some '"'
  | '\\' => some '\\'
  | '/' => some '/'
  | 'b' => some '\x08'
  | 'f' => some '\x0c'
  | 'n' => some '\n'
  | 'r' => some '\r'
  | 't' => some '\t'
  | _ => none

/-- The codes of the characters up to the closing quote, and what comes behind it. -/
def codes? : List Char → Option (List Nat × List Char)
  | '"' :: rest => some ([], rest)
  | '\\' :: 'u' :: a :: b :: c :: d :: rest => do
    let n ← hex? [a, b, c, d]
    let (ns, rest) ← codes? rest
    pure (n :: ns, rest)
  | '\\' :: c :: rest => do
    let e ← shortEscape? c
    let (ns, rest) ← codes? rest
    pure (e.toNat :: ns, rest)
  | c :: rest =>
    if c.toNat < 0x20 then none
    else do
      let (ns, rest) ← codes? rest
      pure (c.toNat :: ns, rest)
  | [] => none

/-- The characters of the given codes, surrogates joined in pairs. -/
def ofCodes? : List Nat → Option (List Char)
  | [] => some []
  | n :: ns =>
    if 0xd800 ≤ n ∧ n < 0xdc00 then
      match ns with
      | [] => none
      | m :: ms =>
        if 0xdc00 ≤ m ∧ m < 0xe000 then
          (ofCodes? ms).map (Char.ofNat (0x10000 + (n - 0xd800) * 0x400 + (m - 0xdc00)) :: ·)
        else none
    else if 0xdc00 ≤ n ∧ n < 0xe000 then none
    else (ofCodes? ns).map (Char.ofNat n :: ·)

/-- The text up to the closing quote, and what comes behind it. -/
def quoted? (cs : List Char) : Option (String × List Char) := do
  let (ns, rest) ← codes? cs
  pure (String.ofList (← ofCodes? ns), rest)

/-! ## Numbers -/

/-- Characters that stand in numbers. -/
def isNumeric (c : Char) : Bool :=
  c.isDigit || c = '-' || c = '+' || c = '.' || c = 'e' || c = 'E'

/-- An optional minus sign and digits, but not minus zero. -/
def whole? : List Char → Option Int
  | '-' :: ds => ((Number.natural? ds).filter (· ≠ 0)).map fun n => -(n : Int)
  | ds => (Number.natural? ds).map fun n => (n : Int)

/-- Whether a text has the form of a number : a sign of minus only, no zero in front of other
digits, and digits on both sides of a point. -/
def isNumber (cs : List Char) : Bool :=
  let digits := match cs with
    | '-' :: rest => rest
    | rest => rest
  let leads := match digits with
    | '0' :: c :: _ => !c.isDigit
    | c :: _ => c.isDigit
    | [] => false
  let closes := match digits.dropWhile Char.isDigit with
    | '.' :: c :: _ => c.isDigit
    | ['.'] => false
    | _ => true
  leads && closes

/-- The number that a text writes. -/
def number? (cs : List Char) : Option Json := do
  if !isNumber cs then none
  let x ← (Double.ofText? cs).filter fun x => x.magnitude < Double.infinityBits
  pure (match whole? cs with
    | some i => .integer i
    | none => .double x)

/-! ## Values -/

/-- What comes behind a word. -/
def behind? (word : String) (cs : List Char) : Option (List Char) :=
  if word.toList.isPrefixOf cs then some (cs.drop word.length) else none

/-- How many arrays and objects may stand in one another. -/
def depthLimit : Nat := 127

mutual

/-- A value with arrays and objects up to `depth` levels deep, and what comes behind it. -/
def value? (steps depth : Nat) (cs : List Char) : Option (Json × List Char) :=
  match steps with
  | 0 => none
  | steps + 1 =>
    match skipBlank cs, depth with
    | '\x7b' :: rest, depth + 1 =>
      match skipBlank rest with
      | '\x7d' :: rest => some (.object [], rest)
      | rest => (members? steps depth rest).map fun (ms, rest) => (.object ms, rest)
    | '[' :: rest, depth + 1 =>
      match skipBlank rest with
      | ']' :: rest => some (.array [], rest)
      | rest => (items? steps depth rest).map fun (js, rest) => (.array js, rest)
    | '"' :: rest, _ => (quoted? rest).map fun (s, rest) => (.text s, rest)
    | 't' :: rest, _ => (behind? "rue" rest).map fun rest => (.bool true, rest)
    | 'f' :: rest, _ => (behind? "alse" rest).map fun rest => (.bool false, rest)
    | 'n' :: rest, _ => (behind? "ull" rest).map fun rest => (.null, rest)
    | rest, _ => (number? (rest.takeWhile isNumeric)).map fun j => (j, rest.dropWhile isNumeric)

/-- The members of an object up to its closing brace, and what comes behind it. -/
def members? (steps depth : Nat) (cs : List Char) : Option (List (String × Json) × List Char) :=
  match steps with
  | 0 => none
  | steps + 1 =>
    match skipBlank cs with
    | '"' :: rest => do
      let (name, rest) ← quoted? rest
      let rest ← behind? ":" (skipBlank rest)
      let (v, rest) ← value? steps depth rest
      match skipBlank rest with
      | ',' :: rest => (members? steps depth rest).map fun (ms, rest) => ((name, v) :: ms, rest)
      | '\x7d' :: rest => pure ([(name, v)], rest)
      | _ => none
    | _ => none

/-- The items of an array up to its closing bracket, and what comes behind it. -/
def items? (steps depth : Nat) (cs : List Char) : Option (List Json × List Char) :=
  match steps with
  | 0 => none
  | steps + 1 => do
    let (v, rest) ← value? steps depth cs
    match skipBlank rest with
    | ',' :: rest => (items? steps depth rest).map fun (js, rest) => (v :: js, rest)
    | ']' :: rest => pure ([v], rest)
    | _ => none

end

/-- The value that a text writes. -/
def parse? (line : String) : Option Json := do
  let cs := line.toList
  let (j, rest) ← value? (2 * cs.length + 2) depthLimit cs
  if (skipBlank rest).isEmpty then pure j else none

end ContactGraph.Json
