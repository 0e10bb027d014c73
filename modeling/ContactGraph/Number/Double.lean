import ContactGraph.Number.Power

/-!
# Double precision numbers

IEEE 754 binary64 numbers, held as their bit patterns so that everything about them is arithmetic on
natural numbers. `Double.form` tells the finite numbers from infinities and NaN, `ofRatio` rounds a
fraction to the nearest double (a tie goes to the even neighbour), `==` is numeric equality, and
`order` is the total order that puts every NaN beyond the infinities.
-/

namespace ContactGraph

/-- A double precision number, by its bits. -/
structure Double where
  /-- Sign, eleven bits of exponent and fifty-two bits of fraction. -/
  bits : UInt64
  deriving DecidableEq, Inhabited

/-- What the bits of a double stand for, its sign aside. -/
inductive DoubleForm where
  /-- Not a number. -/
  | nan
  /-- Beyond every finite number. -/
  | infinite
  /-- `mantissa * 2 ^ exponent`; `narrow` when the gap below is half the gap above. -/
  | finite (mantissa : Nat) (exponent : Int) (narrow : Bool)
  deriving DecidableEq

namespace Double

open Number

/-- Bits of positive infinity; the bits of a NaN are above. -/
def infinityBits : Nat := 0x7ff * pow2 52

/-- Bits of the NaN that texts and overflows produce. -/
def nanBits : Nat := 0x7ff * pow2 52 + pow2 51

/-- The double with the given sign and the given bits below the sign. -/
def ofMagnitude (negative : Bool) (magnitude : Nat) : Double :=
  ⟨UInt64.ofNat (magnitude + if negative then pow2 63 else 0)⟩

/-- Whether the sign bit is set. -/
def isNegative (x : Double) : Bool :=
  pow2 63 ≤ x.bits.toNat

/-- The bits below the sign. -/
def magnitude (x : Double) : Nat :=
  x.bits.toNat % pow2 63

/-- The number that the bits below the sign stand for. -/
def form (x : Double) : DoubleForm :=
  let fraction : Nat := x.magnitude % pow2 52
  let exponent : Nat := x.magnitude / pow2 52
  if infinityBits < x.magnitude then .nan
  else if x.magnitude = infinityBits then .infinite
  else if exponent = 0 then .finite fraction (-1074) false
  else .finite (fraction + pow2 52) (exponent - 1075) (fraction = 0 && 1 < exponent)

/-! ## Rounding -/

/-- `num / den` rounded to a whole number, a tie to the even one. -/
def roundEven (num den : Nat) : Nat :=
  let floor := num / den
  let twice := 2 * (num % den)
  if twice < den then floor
  else if den < twice then floor + 1
  else floor + floor % 2

/-- The exponent `e` with `2 ^ e ≤ num / den < 2 ^ (e + 1)`, for positive numbers. -/
def binaryExponent (num den : Nat) : Int :=
  let e : Int := (Nat.log2 num : Int) - Nat.log2 den
  if den * pow2 e.toNat ≤ num * pow2 (-e).toNat then e else e - 1

/-- The magnitude of the double nearest to `num / den`. Numbers too large round to infinity. -/
def roundMagnitude (num den : Nat) : Nat :=
  if num = 0 then 0
  else
    let q := max (binaryExponent num den - 52) (-1074)
    let mantissa := roundEven (num * pow2 (-q).toNat) (den * pow2 q.toNat)
    min ((q + 1074).toNat * pow2 52 + mantissa) infinityBits

/-- The double nearest to a fraction with the given sign. -/
def ofRatio (negative : Bool) (num den : Nat) : Double :=
  ofMagnitude negative (roundMagnitude num den)

/-- The double nearest to an integer. -/
def ofInt (i : Int) : Double :=
  ofRatio (i < 0) i.natAbs 1

/-! ## Comparison -/

/-- Numeric equality : a NaN differs from itself, and the two zeros are equal. -/
def eqv (x y : Double) : Bool :=
  x.magnitude ≤ infinityBits && y.magnitude ≤ infinityBits
    && (x.bits = y.bits || (x.magnitude = 0 && y.magnitude = 0))

instance : BEq Double := ⟨eqv⟩

/-- Position in the total order : negative NaN, numbers from the lowest, positive NaN. -/
def rank (x : Double) : Int :=
  if x.isNegative then -(x.magnitude : Int) - 1 else x.magnitude

/-- The total order of all bit patterns. -/
def order (x y : Double) : Ordering :=
  compare x.rank y.rank

end Double

end ContactGraph
