import ContactGraph.Number.Digits
import ContactGraph.Text.Blank
import ContactGraph.Time.Instant

/-!
# Reading instants

Three ways to read an instant. `ofTimestamp?` takes the internet date and time format : four digits
of year, two digits elsewhere, a zone with hours and minutes. `ofLooseTimestamp?` takes the same
parts with blanks between them, fewer digits, signed years and `UTC` as a zone. `ofDay?` takes a
date alone and means its midnight. A second of 60 is a leap second; digits after the ninth of a
fraction are dropped.
-/

namespace ContactGraph.Time

open ContactGraph.Text ContactGraph.Number

/-! ## Parts -/

/-- At most `most` leading digits, and what follows them. -/
def spanDigits : Nat → List Char → List Char × List Char
  | 0, cs => ([], cs)
  | _ + 1, [] => ([], [])
  | most + 1, c :: cs =>
    if c.isDigit then
      let (digits, rest) := spanDigits most cs
      (c :: digits, rest)
    else ([], c :: cs)

/-- A number of `least` to `most` digits. -/
def number? (least most : Nat) (cs : List Char) : Option (Nat × List Char) :=
  let (digits, rest) := spanDigits most cs
  if digits.length < least then none else (natural? digits).map (·, rest)

/-- The text after the given character. -/
def after? (c : Char) : List Char → Option (List Char)
  | [] => none
  | d :: cs => if d = c then some cs else none

/-- The text after the character between date and time. -/
def afterDate? : List Char → Option (List Char)
  | [] => none
  | c :: cs => if c = 'T' || c = 't' || c = ' ' then some cs else none

/-- Nanoseconds after a point; none without a point. -/
def fraction? : List Char → Option (Nat × List Char)
  | '.' :: cs => do
    let (value, rest) ← number? 1 9 cs
    let digits := cs.length - rest.length
    pure (value * pow10 (9 - digits), rest.dropWhile Char.isDigit)
  | cs => some (0, cs)

/-- Sign of a zone; the typographic minus counts. -/
def zoneSign? : List Char → Option (Int × List Char)
  | [] => none
  | c :: cs =>
    if c = '+' then some (1, cs)
    else if c = '-' || c = '\u2212' then some (-1, cs)
    else none

/-- Offset of a zone in seconds. `between` reads what separates hours and minutes. -/
def zone? (between : List Char → Option (List Char)) (cs : List Char) :
    Option (Int × List Char) :=
  match cs with
  | 'Z' :: rest => some (0, rest)
  | 'z' :: rest => some (0, rest)
  | _ => do
    let (sign, rest) ← zoneSign? cs
    let (hours, rest) ← number? 2 2 rest
    let rest ← between rest
    let (minutes, rest) ← number? 2 2 rest
    if minutes < 60 && hours < 24 then
      pure (sign * (hours * 3600 + minutes * 60 : Nat), rest)
    else none

/-- The instant of a clock time with the given parts. -/
def ofParts? (date : Date) (hour minute second nano : Nat) (offset : Int) : Option Instant :=
  if date.isValid && hour < 24 && minute < 60 && second ≤ 60 then
    let leap := if second = 60 then 1 else 0
    Instant.ofLocal? date (hour * 3600 + minute * 60 + second - leap)
      (nano + leap * 1000000000) offset
  else none

/-! ## Timestamps -/

/-- Reads a timestamp in the internet date and time format. -/
def ofTimestamp? (cs : List Char) : Option Instant := do
  let (year, cs) ← number? 4 4 cs
  let cs ← after? '-' cs
  let (month, cs) ← number? 2 2 cs
  let cs ← after? '-' cs
  let (day, cs) ← number? 2 2 cs
  let cs ← afterDate? cs
  let (hour, cs) ← number? 2 2 cs
  let cs ← after? ':' cs
  let (minute, cs) ← number? 2 2 cs
  let cs ← after? ':' cs
  let (second, cs) ← number? 2 2 cs
  let (nano, cs) ← fraction? cs
  let (offset, cs) ← zone? (after? ':') cs
  if cs.isEmpty then ofParts? ⟨year, month, day⟩ hour minute second nano offset else none

/-- A year : up to four digits, or any number of digits after a sign. -/
def year? (cs : List Char) : Option (Int × List Char) :=
  match cs with
  | '-' :: rest => (number? 1 rest.length rest).map fun (n, r) => (-(n : Int), r)
  | '+' :: rest => (number? 1 rest.length rest).map fun (n, r) => ((n : Int), r)
  | _ => (number? 1 4 cs).map fun (n, r) => ((n : Int), r)

/-- A date of signed year, month and day, with blanks in front of each. `gap` is applied in front of
each hyphen. -/
def date? (gap : List Char → List Char) (cs : List Char) : Option (Date × List Char) := do
  let (year, cs) ← year? (dropBlank cs)
  let cs ← after? '-' (gap cs)
  let (month, cs) ← number? 1 2 (dropBlank cs)
  let cs ← after? '-' (gap cs)
  let (day, cs) ← number? 1 2 (dropBlank cs)
  pure (⟨year, month, day⟩, cs)

/-- A zone, or `UTC` in any letter case. -/
def looseZone? (cs : List Char) : Option (Int × List Char) :=
  if (cs.take 3).map Char.toUpper = ['U', 'T', 'C'] then some (0, cs.drop 3)
  else zone? (fun rest => some (rest.dropWhile fun c => c = ':' || isBlank c)) cs

/-- Reads a timestamp that may have blanks between its parts. -/
def ofLooseTimestamp? (cs : List Char) : Option Instant := do
  let (date, cs) ← date? dropBlank cs
  let cs ← afterDate? cs
  let (hour, cs) ← number? 1 2 (dropBlank cs)
  let cs ← after? ':' (dropBlank cs)
  let (minute, cs) ← number? 1 2 (dropBlank cs)
  let cs ← after? ':' (dropBlank cs)
  let (second, cs) ← number? 1 2 (dropBlank cs)
  let (nano, cs) ← fraction? cs
  let (offset, cs) ← looseZone? (dropBlank cs)
  if (dropBlank cs).isEmpty then ofParts? date hour minute second nano offset else none

/-! ## Days -/

/-- Reads a date and takes its midnight. -/
def ofDay? (cs : List Char) : Option Instant := do
  let (date, cs) ← date? (fun rest => rest) cs
  if cs.isEmpty then Instant.of? date 0 0 else none

end ContactGraph.Time
