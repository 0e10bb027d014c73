import ContactGraph.Number.Digits
import ContactGraph.Number.Double

/-!
# Shortest decimal text of a double

The text of a finite double has the fewest digits that read back as the same double, and of those
the digits nearest to it; an exact tie takes the larger. The candidates with `n` digits are the
two neighbours of the number on the decimal grid with `n` places, so it is enough to look at
those. The digits are written positionally, without an exponent.
-/

namespace ContactGraph.Number

/-- The decimal number `digits * 10 ^ exponent`. -/
structure Decimal where
  /-- All digits, read as one number. -/
  digits : Nat
  /-- Power of ten of the last digit. -/
  exponent : Int
  deriving DecidableEq, Repr, Inhabited

/-- The reals that round to one double : an interval around `centre`, in units of `num / den`. -/
structure Interval where
  /-- Lower end. -/
  low : Nat
  /-- The number itself. -/
  centre : Nat
  /-- Upper end. -/
  high : Nat
  /-- Whether the ends belong to the interval. -/
  closed : Bool
  /-- Numerator of the unit. -/
  num : Nat
  /-- Denominator of the unit. -/
  den : Nat

/-- The reals that round to the positive double `mantissa * 2 ^ exponent`. -/
def Interval.ofForm (mantissa : Nat) (exponent : Int) (narrow : Bool) : Interval where
  low := 4 * mantissa - if narrow then 1 else 2
  centre := 4 * mantissa
  high := 4 * mantissa + 2
  closed := mantissa % 2 = 0
  num := pow2 (exponent - 2).toNat
  den := pow2 (2 - exponent).toNat

/-- Whether `d` lies in the interval. -/
def Interval.contains (i : Interval) (d : Decimal) : Bool :=
  let point := d.digits * pow10 d.exponent.toNat * i.den
  let scale := i.num * pow10 (-d.exponent).toNat
  if i.closed then i.low * scale ≤ point && point ≤ i.high * scale
  else i.low * scale < point && point < i.high * scale

/-- The exponent `e` with `10 ^ e ≤ num / den < 10 ^ (e + 1)`, for positive numbers. -/
def decimalExponent (num den : Nat) : Int :=
  let e : Int := ((natDigits num).length : Int) - (natDigits den).length
  if den * pow10 e.toNat ≤ num * pow10 (-e).toNat then e else e - 1

/-- The neighbour of the centre on the grid of `10 ^ exponent` that lies in the interval, if any;
of two the nearer, and the upper one when both are equally near. -/
def Interval.gridPoint? (i : Interval) (exponent : Int) : Option Decimal :=
  let num := i.centre * i.num * pow10 (-exponent).toNat
  let den := i.den * pow10 exponent.toNat
  let floor := num / den
  let down : Decimal := ⟨floor, exponent⟩
  let up : Decimal := ⟨floor + 1, exponent⟩
  match i.contains down, i.contains up with
  | true, true => if 2 * (num % den) < den then some down else some up
  | true, false => some down
  | false, true => some up
  | false, false => none

/-- The shortest decimal in the interval. Seventeen digits always suffice. -/
def Interval.shortest (i : Interval) : Decimal :=
  let top := decimalExponent (i.centre * i.num) i.den
  ((List.range 17).findSome? fun (n : Nat) => i.gridPoint? (top - n)).getD
    ⟨i.centre * i.num / i.den, 0⟩

/-- A decimal without an exponent. -/
def Decimal.positional (d : Decimal) : List Char :=
  let ds := natDigits d.digits
  let places := (-d.exponent).toNat
  if 0 ≤ d.exponent then ds ++ List.replicate d.exponent.toNat '0'
  else if places < ds.length then
    ds.take (ds.length - places) ++ '.' :: ds.drop (ds.length - places)
  else '0' :: '.' :: List.replicate (places - ds.length) '0' ++ ds

/-- Trailing zeros of `digits` moved into the exponent; `fuel` bounds their number. -/
def Decimal.strip : Nat → Decimal → Decimal
  | 0, d => d
  | fuel + 1, d =>
    if d.digits % 10 = 0 && d.digits ≠ 0 then strip fuel ⟨d.digits / 10, d.exponent + 1⟩ else d

/-- The shortest decimal of a finite double that is not zero, without trailing zeros. -/
def shortestDecimal (mantissa : Nat) (exponent : Int) (narrow : Bool) : Decimal :=
  (Interval.ofForm mantissa exponent narrow).shortest.strip 17

end ContactGraph.Number

namespace ContactGraph.Double

open ContactGraph.Number

/-- The shortest decimal of a finite double, its sign aside. -/
def decimal? (x : Double) : Option Decimal :=
  match x.form with
  | .finite 0 _ _ => some ⟨0, 0⟩
  | .finite m e narrow => some (shortestDecimal m e narrow)
  | _ => none

/-- The text of a double : positional digits, `inf` or `NaN`. -/
def text (x : Double) : List Char :=
  let sign := if x.isNegative then ['-'] else []
  match x.form, x.decimal? with
  | .nan, _ => "NaN".toList
  | _, none => sign ++ "inf".toList
  | _, some d => sign ++ d.positional

end ContactGraph.Double
