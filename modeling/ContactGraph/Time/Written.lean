import ContactGraph.Number.Digits
import ContactGraph.Time.Instant

/-!
# Writing instants

An instant is written as date, `T`, time of day and zone. The fraction of the second takes 3, 6 or 9
digits, or none when it is zero; years outside 0 to 9999 carry a sign; a leap second is second 60.
-/

namespace ContactGraph

open Number

/-- The digits after the seconds : none, or as many groups of three as are needed. -/
def fractionDigits (nano : Nat) : List Char :=
  if nano = 0 then []
  else if nano % 1000000 = 0 then '.' :: padded 3 (nano / 1000000)
  else if nano % 1000 = 0 then '.' :: padded 6 (nano / 1000)
  else '.' :: padded 9 nano

/-- Four digits, with a sign when the year is not within 0 to 9999. -/
def yearDigits (year : Int) : List Char :=
  if year < 0 then '-' :: padded 4 year.natAbs
  else if 9999 < year then '+' :: padded 4 year.natAbs
  else padded 4 year.natAbs

namespace Date

/-- Year, month and day. -/
def write (d : Date) : List Char :=
  yearDigits d.year ++ '-' :: padded 2 d.month ++ '-' :: padded 2 d.day

end Date

namespace Instant

/-- The instant with its zone written as `zone`. -/
def write (i : Instant) (zone : List Char) : List Char :=
  let leap := 1000000000 ≤ i.nano
  let second := i.second % 60 + if leap then 1 else 0
  let nano := if leap then i.nano - 1000000000 else i.nano
  i.date.write ++ 'T' :: padded 2 (i.second / 3600) ++ ':' :: padded 2 (i.second / 60 % 60)
    ++ ':' :: padded 2 second ++ fractionDigits nano ++ zone

/-- The instant with `Z` for UTC. -/
def stamp (i : Instant) : String :=
  String.ofList (i.write ['Z'])

/-- The instant with UTC as an offset of no hours and no minutes. -/
def text (i : Instant) : String :=
  String.ofList (i.write "+00:00".toList)

end Instant

end ContactGraph
