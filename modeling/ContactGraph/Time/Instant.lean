/-!
# Instants

Points in time on the proleptic Gregorian calendar in UTC, to the nanosecond. A `Date` is a year, a
month and a day; `Date.next` and `Date.prev` step through the calendar. An `Instant` adds the second
of the day. A leap second is held as the last second of its minute with a fraction of a whole second
or more, so it comes after that second and before the next minute.
-/

namespace ContactGraph

/-- A day of the proleptic Gregorian calendar. Year 0 is the year before year 1. -/
structure Date where
  /-- Year, negative before year 0. -/
  year : Int
  /-- Month, from 1. -/
  month : Nat
  /-- Day of the month, from 1. -/
  day : Nat
  deriving DecidableEq, Repr, Inhabited

namespace Date

/-- Whether a year has a 29th of February. -/
def isLeapYear (year : Int) : Bool :=
  year % 4 = 0 && (year % 100 ≠ 0 || year % 400 = 0)

/-- Number of days of a month. -/
def daysIn (year : Int) (month : Nat) : Nat :=
  if month = 2 then (if isLeapYear year then 29 else 28)
  else if month = 4 || month = 6 || month = 9 || month = 11 then 30
  else 31

/-- First year an instant can lie in. -/
def firstYear : Int := -262143

/-- Last year an instant can lie in. -/
def lastYear : Int := 262142

/-- Whether the date exists and its year is in range. -/
def isValid (d : Date) : Bool :=
  firstYear ≤ d.year && d.year ≤ lastYear && 1 ≤ d.month && d.month ≤ 12 && 1 ≤ d.day
    && d.day ≤ daysIn d.year d.month

/-- The day after. -/
def next (d : Date) : Date :=
  if d.day < daysIn d.year d.month then { d with day := d.day + 1 }
  else if d.month < 12 then ⟨d.year, d.month + 1, 1⟩
  else ⟨d.year + 1, 1, 1⟩

/-- The day before. -/
def prev (d : Date) : Date :=
  if 1 < d.day then { d with day := d.day - 1 }
  else if 1 < d.month then ⟨d.year, d.month - 1, daysIn d.year (d.month - 1)⟩
  else ⟨d.year - 1, 12, 31⟩

/-- Order in time. -/
def order (a b : Date) : Ordering :=
  (compare a.year b.year).then ((compare a.month b.month).then (compare a.day b.day))

end Date

/-- A second of a day is in range, and a fraction of a whole second or more marks a leap second. -/
def isClockTime (second nano : Nat) : Bool :=
  second < 86400 && nano < 2000000000 && (nano < 1000000000 || second % 60 = 59)

/-- A point in time, in UTC. -/
structure Instant where
  /-- The day. -/
  date : Date
  /-- Second of the day. -/
  second : Nat
  /-- Nanosecond of the second; a thousand million or more in a leap second. -/
  nano : Nat
  /-- The day exists. -/
  date_valid : date.isValid = true
  /-- The time of day exists. -/
  clock_valid : isClockTime second nano = true
  deriving DecidableEq

namespace Instant

/-- The instant of a date and a time of day, when both exist. -/
def of? (date : Date) (second nano : Nat) : Option Instant :=
  if h : date.isValid = true ∧ isClockTime second nano = true then
    some ⟨date, second, nano, h.1, h.2⟩
  else none

/-- Order in time. -/
def order (a b : Instant) : Ordering :=
  (a.date.order b.date).then ((compare a.second b.second).then (compare a.nano b.nano))

/-- The instant that a clock shows which is `offset` seconds ahead of UTC. -/
def ofLocal? (date : Date) (second nano : Nat) (offset : Int) : Option Instant :=
  let shifted : Int := second - offset
  if shifted < 0 then of? date.prev (shifted + 86400).toNat nano
  else if 86400 ≤ shifted then of? date.next (shifted - 86400).toNat nano
  else of? date shifted.toNat nano

end Instant

end ContactGraph
