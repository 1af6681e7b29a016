import HydroArchive.Time.Calendar
import HydroArchive.Time.Instant

/-!
# The clock of a zone

The history of a zone's clock: how far it was ahead of UTC at first, and the seconds, in UTC, at
which that changed.  Most clocks change by yearly patterns, so a history lists single changes and
patterns that hold for a span of years.

## Main definitions

* `ZoneHistory` — the history as it is listed.
* `ZoneHistory.changes` — all changes one by one, in ascending order.
* `ZoneHistory.offsetAt` — the offset at a second.
* `ZoneHistory.earliest?` — the first second at which the clock reads a given time.
-/

namespace HydroArchive

inductive MonthDay where
  | on (day : Nat)
  /-- The last day of the month that falls on a weekday. -/
  | last (weekday : Nat)
  /-- The first day that falls on a weekday, not before a day of the month. -/
  | onOrAfter (weekday day : Nat)

def MonthDay.dayNumber (year : Int) (month : Nat) : MonthDay → Int
  | .on day => Date.dayNumber ⟨year, month, day⟩
  | .last weekday =>
    let d : Date := ⟨year, month, 1⟩
    let n := Date.dayNumber ⟨year, month, d.monthLength⟩
    n - (((n - weekday) + 4) % 7)
  | .onOrAfter weekday day =>
    let n := Date.dayNumber ⟨year, month, day⟩
    n + ((weekday - (n + 4)) % 7)

/-- A change that comes every year: on a day of a month, so many seconds after midnight UTC, the
clock takes a new offset. -/
structure YearlyTurn where
  month : Nat
  day : MonthDay
  second : Int
  offset : Int

/-- The change in one year: its second and the new offset. -/
def YearlyTurn.inYear (t : YearlyTurn) (year : Int) : Int × Int :=
  (t.day.dayNumber year t.month * secondsPerDay + t.second, t.offset)

/-- A line of a zone's history. -/
inductive ZoneChange where
  /-- From a second on, the clock has an offset. -/
  | once (second offset : Int)
  /-- The turns come in every year from `first` to `last`, in the order given. -/
  | yearly (first last : Nat) (turns : List YearlyTurn)

/-- The changes that a line stands for, each with its second and the new offset. -/
def ZoneChange.expand : ZoneChange → List (Int × Int)
  | .once second offset => [(second, offset)]
  | .yearly first last turns =>
    (List.range' first (last + 1 - first)).flatMap fun (year : Nat) =>
      turns.map fun t => t.inYear year

/-- The changes that come after a second, as long as each comes after those before it. -/
def ascendingAfter (second : Int) : List (Int × Int) → List (Int × Int)
  | [] => []
  | c :: cs =>
    if second < c.1 then c :: ascendingAfter c.1 cs else ascendingAfter second cs

/-- The changes in ascending order of their seconds; a line that does not come after the lines
before it is dropped. -/
def ascending : List (Int × Int) → List (Int × Int)
  | [] => []
  | c :: cs => c :: ascendingAfter c.1 cs

/-- The history of a zone's clock: the offset before the first change, and the changes. -/
structure ZoneHistory where
  first : Int
  lines : List ZoneChange

namespace ZoneHistory

def changes (h : ZoneHistory) : List (Int × Int) := ascending (h.lines.flatMap ZoneChange.expand)

/-- The offset that a clock has at a second: `offset` until the first of the changes. -/
def offsetAfter (offset : Int) : List (Int × Int) → Int → Int
  | [], _ => offset
  | c :: cs, second => if second < c.1 then offset else offsetAfter c.2 cs second

/-- How far the clock is ahead of UTC at a second. -/
def offsetAt (h : ZoneHistory) (second : Int) : Int := offsetAfter h.first h.changes second

/-- Whether a second is not before a start, where there is one. -/
def notBefore (start : Option Int) (second : Int) : Bool :=
  match start with
  | some s => s ≤ second
  | none => true

/-- The first second, not before `start`, at which a clock reads a time; the clock has an offset
from `start` until the first of the changes.  The time is given as the second at which a clock in
UTC reads it. -/
def earliestFrom? (start : Option Int) (offset : Int) : List (Int × Int) → Int → Option Int
  | [], reading =>
    if notBefore start (reading - offset) then some (reading - offset) else none
  | c :: cs, reading =>
    if notBefore start (reading - offset) ∧ reading - offset < c.1 then some (reading - offset)
    else earliestFrom? (some c.1) c.2 cs reading

/-- The first second at which the clock reads a time, if it ever does. -/
def earliest? (h : ZoneHistory) (reading : Int) : Option Int :=
  earliestFrom? none h.first h.changes reading

end ZoneHistory

end HydroArchive
