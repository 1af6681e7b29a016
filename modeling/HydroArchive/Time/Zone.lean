import HydroArchive.Text.Blank
import HydroArchive.Time.Format
import HydroArchive.Time.ZoneTable

/-!
# Zones

A time is shown in a named zone, whose clock may change, or at a bare offset from UTC, which says
nothing about changes of the clock.

A wall-clock time is read in a zone with `Zone.localize`.  When the clock shows it twice, the
earlier instant is meant; when the clock skips it, or shows it outside the calendar of the archive,
the time an hour later is looked up instead.  In the last hour of the calendar there is no such
time, and then nothing is read at all.

## Main definitions

* `Zone` — a named zone or an offset; `Zone.utc`.
* `Zone.offsetAt`, `Zone.localize` — from instants to wall-clock times and back.
* `ZonedTime` — an instant together with the zone in which it is shown.
-/

namespace HydroArchive

/-- A named zone, or a bare offset in seconds from UTC. -/
inductive Zone where
  | named (name : String) (history : ZoneHistory)
  | offset (seconds : Int)

namespace Zone

def utc : Zone := .named "UTC" ⟨0, []⟩

/-- The zone with a name.  Names are looked up as they are written, blanks around them apart. -/
def ofName? (name : String) : Option Zone :=
  let name := Text.trim name
  (ZoneTable.history? name).map fun h => .named name h

def isOffset : Zone → Bool
  | named _ _ => false
  | offset _ => true

/-- The name of a zone; an offset is written as `+HH:MM`, with seconds when it has any. -/
def name : Zone → String
  | named name _ => name
  | offset seconds => String.ofList (Time.offsetName seconds)

/-- How many seconds the zone's clock is ahead of UTC at an instant. -/
def offsetAt (z : Zone) (t : Instant) : Int :=
  match z with
  | named _ h => h.offsetAt t.second
  | offset seconds => seconds

/-- What the zone's clock reads at an instant. -/
def wallTime (z : Zone) (t : Instant) : WallTime := t.atOffset (z.offsetAt t)

/-- The earliest instant at which the zone's clock reads a time.  Only whole seconds are compared,
so a leap second is read at the same instant as the second before it.  Instants that the calendar of
the archive does not cover are left out. -/
def earliest? (z : Zone) (w : WallTime) : Option Instant :=
  let found :=
    match z with
    | named _ h => (h.earliest? w.asUtc.second).map fun s => { w.asUtc with second := s }
    | offset seconds => some (w.atOffset seconds)
  found.filter Instant.inRange

/-- The instant that a wall-clock time means in the zone.  Where it means none, the time one hour
later is taken, and where that means none either, the time is read in UTC.  Nothing is read where
the calendar ends before the time one hour later. -/
def localize (z : Zone) (w : WallTime) : Option Instant :=
  match z.earliest? w with
  | some t => some t
  | none => (w.asUtc.plus? 3600).map fun later => (z.earliest? ⟨later⟩).getD w.asUtc

end Zone

/-- An instant and the zone in which it is shown. -/
structure ZonedTime where
  instant : Instant
  zone : Zone

namespace ZonedTime

def offset (z : ZonedTime) : Int := z.zone.offsetAt z.instant

/-- The date, the time and the offset, without the name of the zone. -/
def stamp (z : ZonedTime) : List Char := Time.stampAt z.instant z.offset

/-- How a zoned time is shown: with the name of the zone in brackets, where it has one. -/
def text (z : ZonedTime) : String :=
  String.ofList <| match z.zone with
    | .named name _ => z.stamp ++ '[' :: (name.toList ++ [']'])
    | .offset _ => z.stamp

end ZonedTime

end HydroArchive
