import HydroArchive.Text.Number
import HydroArchive.Time.Calendar
import HydroArchive.Time.Instant

/-!
# How times are written

Times are written as `2021-06-10T13:00:00-07:00`, with 3, 6 or 9 digits of a fraction when there is
one, the fewest that are exact.  A leap second is written as second 60.  Years outside 0 to 9999
have a sign and at least four digits.  The offset is rounded to whole minutes; UTC can be written as
`Z`.

## Main definitions

* `Time.wallText` — a wall-clock time.
* `Time.stampAt` — an instant at an offset; `Time.shortStampAt` and `Time.utcStamp` write UTC as
  `Z`.
* `Time.offsetName` — an offset as the name of a zone.
-/

namespace HydroArchive.Time

open Text (padded)

def yearText (y : Int) : List Char :=
  if 0 ≤ y ∧ y ≤ 9999 then padded 4 y.toNat
  else (if y < 0 then '-' else '+') :: padded 4 y.natAbs

def dateText (d : Date) : List Char :=
  yearText d.year ++ '-' :: (padded 2 d.month ++ '-' :: padded 2 d.day)

/-- The fraction of a second: nothing, or a point and 3, 6 or 9 digits. -/
def fractionText (nano : Nat) : List Char :=
  if nano = 0 then []
  else if nano % 1000000 = 0 then '.' :: padded 3 (nano / 1000000)
  else if nano % 1000 = 0 then '.' :: padded 6 (nano / 1000)
  else '.' :: padded 9 nano

/-- The time of day; a leap second is the second after the one it is counted in. -/
def clockText (second nano : Nat) : List Char :=
  let leap := nano / nanosPerSecond
  padded 2 (second / 3600) ++ ':' :: (padded 2 (second / 60 % 60) ++ ':' ::
    (padded 2 (second % 60 + leap) ++ fractionText (nano % nanosPerSecond)))

def wallText (w : WallTime) : List Char :=
  let t := w.asUtc
  dateText (Date.ofDayNumber (t.second / secondsPerDay)) ++
    'T' :: clockText (t.second % secondsPerDay).toNat t.nano

def signText (offset : Int) : Char := if offset < 0 then '-' else '+'

/-- An offset in hours and minutes, rounded to the nearest minute. -/
def offsetText (offset : Int) : List Char :=
  let minutes := (offset.natAbs + 30) / 60
  signText offset :: (padded 2 (minutes / 60) ++ ':' :: padded 2 (minutes % 60))

/-- An offset in hours and minutes, and seconds when it has any. -/
def offsetName (offset : Int) : List Char :=
  let n := offset.natAbs
  signText offset :: (padded 2 (n / 3600) ++ ':' :: padded 2 (n / 60 % 60)) ++
    (if n % 60 = 0 then [] else ':' :: padded 2 (n % 60))

/-- An instant as a clock shows it that is ahead of UTC by an offset, and the offset. -/
def stampAt (t : Instant) (offset : Int) : List Char :=
  wallText (t.atOffset offset) ++ offsetText offset

/-- An instant at an offset, where no offset at all is written as `Z`. -/
def shortStampAt (t : Instant) (offset : Int) : List Char :=
  if offset = 0 then wallText (t.atOffset 0) ++ ['Z'] else stampAt t offset

def utcStamp (t : Instant) : List Char := shortStampAt t 0

end HydroArchive.Time
