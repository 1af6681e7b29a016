/-!
# Instants and wall-clock times

An instant is counted in seconds from 1 January 1970 in UTC, every day having 86400 of them, and in
nanoseconds within the second.  A leap second has no second of its own: it is the second before it
with `10⁹` nanoseconds or more, so it comes after that second and before the next one.

A wall-clock time is what a clock on a wall reads.  It is kept as the instant at which a clock in
UTC reads it.

## Main definitions

* `Instant`, `WallTime` — the two kinds of time, with their order.
* `Instant.plus` — a number of seconds later or earlier, leaving a leap second behind;
  `Instant.plus?` — the same within the calendar.
* `Instant.millis`, `Instant.ofMillis?` — milliseconds since 1970, as resume keys carry them.
-/

namespace HydroArchive

abbrev nanosPerSecond : Nat := 1000000000

abbrev secondsPerDay : Int := 86400

/-- A point in time.  With `10⁹` nanoseconds or more it lies in the leap second after `second`. -/
structure Instant where
  second : Int
  nano : Nat
  nano_lt : nano < 2 * nanosPerSecond := by decide
  deriving DecidableEq

namespace Instant

/-- The instant with so many seconds and nanoseconds, if there is one. -/
def mk? (second : Int) (nano : Nat) : Option Instant :=
  if h : nano < 2 * nanosPerSecond then some ⟨second, nano, h⟩ else none

/-- Instants are ordered by their seconds, then by their nanoseconds. -/
def lt (a b : Instant) : Prop := a.second < b.second ∨ (a.second = b.second ∧ a.nano < b.nano)

/-- Whether an instant is not after another. -/
def le (a b : Instant) : Prop := a.second < b.second ∨ (a.second = b.second ∧ a.nano ≤ b.nano)

instance : LT Instant := ⟨lt⟩

instance : LE Instant := ⟨le⟩

instance (a b : Instant) : Decidable (a < b) := inferInstanceAs (Decidable (_ ∨ _))

instance (a b : Instant) : Decidable (a ≤ b) := inferInstanceAs (Decidable (_ ∨ _))

def isLeap (t : Instant) : Bool := nanosPerSecond ≤ t.nano

/-- The same fraction of another second.  A leap second stays one. -/
def moved (t : Instant) (seconds : Int) : Instant := { t with second := t.second + seconds }

/-- The instant so many seconds later.  Time that leaves a leap second goes on with an ordinary
second: forward from the second before it, backward from the second after it. -/
def plus (t : Instant) (seconds : Int) : Instant :=
  if t.isLeap ∧ seconds ≠ 0 then
    ⟨t.second + seconds + (if seconds < 0 then 1 else 0), t.nano - nanosPerSecond,
      by have := t.nano_lt; omega⟩
  else t.moved seconds

/-- Milliseconds since 1970, rounded down. -/
def millis (t : Instant) : Int := t.second * 1000 + (t.nano / 1000000 : Nat)

/-- The first second that the calendar of the archive covers, at the start of the year −262143. -/
def firstSecond : Int := -8334601228800

/-- The last second that the calendar of the archive covers, at the end of the year 262142. -/
def lastSecond : Int := 8210266876799

/-- Whether the calendar of the archive covers an instant. -/
def inRange (t : Instant) : Bool := firstSecond ≤ t.second && t.second ≤ lastSecond

/-- The instant so many seconds later, if the calendar covers it. -/
def plus? (t : Instant) (seconds : Int) : Option Instant :=
  let sum := t.plus seconds
  if sum.inRange then some sum else none

/-- The instant so many milliseconds after 1970, if the calendar covers it. -/
def ofMillis? (millis : Int) : Option Instant :=
  let t : Instant := ⟨millis / 1000, (millis % 1000).toNat * 1000000, by
    simp only [nanosPerSecond]; omega⟩
  if t.inRange then some t else none

end Instant

/-- What a clock on a wall reads. -/
structure WallTime where
  /-- The instant at which a clock in UTC reads it. -/
  asUtc : Instant
  deriving DecidableEq

/-- What a clock reads that is ahead of UTC by so many seconds. -/
def Instant.atOffset (t : Instant) (offset : Int) : WallTime := ⟨t.moved offset⟩

/-- The instant at which a clock reads this time that is ahead of UTC by so many seconds. -/
def WallTime.atOffset (w : WallTime) (offset : Int) : Instant := w.asUtc.moved (-offset)

end HydroArchive
