import ContactGraph.Number.Digits
import ContactGraph.Number.Double

/-!
# Reading doubles

A double is read from digits with an optional sign, point and exponent, rounded to the nearest; or
from `inf`, `infinity` and `nan` in any letter case. At least one digit has to stand before or after
the point, and one in an exponent.
-/

namespace ContactGraph.Double

open ContactGraph.Number

/-- The double nearest to `digits * 10 ^ exponent`. A number whose decimal magnitude is out of reach
needs no power of ten. -/
def ofDecimal (negative : Bool) (digits : Nat) (exponent : Int) : Double :=
  let top := (natDigits digits).length + exponent
  if digits = 0 || top < -400 then ofMagnitude negative 0
  else if 400 < top then ofMagnitude negative infinityBits
  else ofRatio negative (digits * pow10 exponent.toNat) (pow10 (-exponent).toNat)

/-- The exponent at the end of a number; no exponent is zero. -/
def exponent? : List Char → Option Int
  | [] => some 0
  | c :: cs =>
    if c = 'e' || c = 'E' then
      match cs with
      | '-' :: ds => (natural? ds).map fun n => -(n : Int)
      | '+' :: ds => (natural? ds).map fun n => (n : Int)
      | ds => (natural? ds).map fun n => (n : Int)
    else none

/-- A number without a sign. -/
def unsigned? (negative : Bool) (cs : List Char) : Option Double :=
  let whole := cs.takeWhile Char.isDigit
  let rest := cs.dropWhile Char.isDigit
  let part := if rest.head? = some '.' then rest.tail.takeWhile Char.isDigit else []
  let tail := if rest.head? = some '.' then rest.tail.dropWhile Char.isDigit else rest
  match natural? (whole ++ part), exponent? tail with
  | some digits, some e => some (ofDecimal negative digits (e - part.length))
  | _, _ => none

/-- A number without a sign, or one of the names. -/
def magnitude? (negative : Bool) (cs : List Char) : Option Double :=
  let name := String.ofList (cs.map Char.toLower)
  if name = "inf" || name = "infinity" then some (ofMagnitude negative infinityBits)
  else if name = "nan" then some (ofMagnitude negative nanBits)
  else unsigned? negative cs

/-- The double that a text writes. -/
def ofText? : List Char → Option Double
  | '-' :: cs => magnitude? true cs
  | '+' :: cs => magnitude? false cs
  | cs => magnitude? false cs

end ContactGraph.Double
