import ContactGraph.Number.Power

/-!
# Reading and writing whole numbers

Decimal digits with an optional sign, bounded by the width of the number that is read. `natural?`
reads a nonempty run of digits, `unsigned?` and `signed?` add the sign and the bound. Nothing else
is a number : no blanks, no separators, no other digits than the ten of ASCII.
-/

namespace ContactGraph.Number

/-- The number that the digits of `cs` write after the digits read so far. -/
def readDigits : Nat → List Char → Option Nat
  | n, [] => some n
  | n, c :: cs => if c.isDigit then readDigits (10 * n + (c.toNat - '0'.toNat)) cs else none

/-- The number written by a nonempty run of digits. -/
def natural? : List Char → Option Nat
  | [] => none
  | c :: cs => readDigits 0 (c :: cs)

/-- A number below `bound`, with an optional plus sign. -/
def unsigned? (bound : Nat) (cs : List Char) : Option Nat :=
  (natural? (if cs.head? = some '+' then cs.tail else cs)).filter (· < bound)

/-- A signed number of 64 bits. -/
def signed? (cs : List Char) : Option Int64 :=
  match cs with
  | '-' :: ds => ((natural? ds).filter (· ≤ pow2 63)).map fun n => Int64.ofInt (-n)
  | _ => (unsigned? (pow2 63) cs).map fun n => Int64.ofInt n

/-- An unsigned number of 32 bits. -/
def word? (cs : List Char) : Option UInt32 :=
  (unsigned? (pow2 32) cs).map UInt32.ofNat

/-- The decimal digits of a number. -/
def natDigits (n : Nat) : List Char :=
  Nat.toDigits 10 n

/-- The digits of `n`, with zeros in front up to `width` places. -/
def padded (width n : Nat) : List Char :=
  List.replicate (width - (natDigits n).length) '0' ++ natDigits n

/-- The decimal text of an integer. -/
def intDigits (i : Int) : List Char :=
  if i < 0 then '-' :: natDigits i.natAbs else natDigits i.natAbs

end ContactGraph.Number
