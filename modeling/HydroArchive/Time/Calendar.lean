/-!
# The calendar

Dates of the proleptic Gregorian calendar and their day numbers, counted from 1 January 1970.  The
calendar repeats after 400 years of 146097 days.

## Main definitions

* `Date` — year, month and day; `Date.Valid` when the day exists.
* `Date.dayNumber`, `Date.ofDayNumber` — the two ways between dates and day numbers.
* `weekday` — the day of the week of a day number, Sunday being 0.
-/

namespace HydroArchive

/-- A year, a month from 1 to 12 and a day from 1. -/
structure Date where
  year : Int
  month : Nat
  day : Nat
  deriving DecidableEq, Repr

namespace Calendar

def isLeapYear (y : Int) : Bool := y % 4 == 0 && (y % 100 != 0 || y % 400 == 0)

def monthLengths (leap : Bool) : List Nat :=
  [31, if leap then 29 else 28, 31, 30, 31, 30, 31, 31, 30, 31, 30, 31]

/-- The days from 1 January of the year 1 to 1 January of a year. -/
def daysBeforeYear (y : Int) : Int :=
  365 * (y - 1) + (y - 1) / 4 - (y - 1) / 100 + (y - 1) / 400

/-- The days of a year before the first day of a month. -/
def daysBeforeMonth (leap : Bool) (month : Nat) : Nat :=
  ((monthLengths leap).take (month - 1)).foldr (· + ·) 0

/-- The day number of 1 January 1970, counted from 1 January of the year 1. -/
def epochDay : Int := 719162

/-- The month and the day of a day of the year, given the lengths of the months that are left and
the number of the first of them. -/
def monthDay (month : Nat) : List Nat → Nat → Nat × Nat
  | [], n => (month, n + 1)
  | length :: lengths, n =>
    if n < length then (month, n + 1) else monthDay (month + 1) lengths (n - length)

/-- The day of the week of a day number; Sunday is 0. -/
def weekday (day : Int) : Nat := ((day + 4) % 7).toNat

end Calendar

namespace Date

open Calendar

def monthLength (d : Date) : Nat := (monthLengths (isLeapYear d.year)).getD (d.month - 1) 0

def Valid (d : Date) : Prop := 1 ≤ d.month ∧ d.month ≤ 12 ∧ 1 ≤ d.day ∧ d.day ≤ d.monthLength

instance (d : Date) : Decidable d.Valid := inferInstanceAs (Decidable (_ ∧ _))

/-- Days since 1 January 1970. -/
def dayNumber (d : Date) : Int :=
  daysBeforeYear d.year + daysBeforeMonth (isLeapYear d.year) d.month + ((d.day : Int) - 1)
    - epochDay

/-- The date of a day number.  The day is counted within its 400 years, then within its century, its
four years and its year; the last century and the last year of four are one day longer. -/
def ofDayNumber (n : Int) : Date :=
  let n := n + epochDay
  let inCycle := (n % 146097).toNat
  let century := min (inCycle / 36524) 3
  let inCentury := inCycle - 36524 * century
  let four := inCentury / 1461
  let inFour := inCentury % 1461
  let single := min (inFour / 365) 3
  let year := n / 146097 * 400 + (100 * century + 4 * four + single + 1 : Nat)
  let (month, day) := monthDay 1 (monthLengths (isLeapYear year)) (inFour - 365 * single)
  ⟨year, month, day⟩

end Date

end HydroArchive
