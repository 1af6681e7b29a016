import HydroArchive.Time.Reader
import HydroArchive.Time.Zone

/-!
# Time windows

Readings are asked for between a begin and an end.  Both may come with an offset, with a zone in
brackets, with both, with a `Z`, or with neither, and a zone may be given besides.  The window says
which instants are meant and in which zone the answer is shown:

1. the zone that is given besides,
2. the zone that the begin names,
3. UTC.

A begin without a zone is read in that zone, and an end without one in the zone of the begin.  A
begin with nothing but an offset names no zone, so it is refused unless a zone is given besides.

Two sums can lead out of the calendar: a day before `now`, where no begin is given, and an hour
after a time that the clock does not show.  They are not checked, and the computation breaks off
there without an answer.

## Main definitions

* `TimeError` — the ways in which times and windows can be refused.
* `TimeFailure` — the ways in which there is no time: a refusal, or a computation that breaks off.
* `parseTime` — reads one time.
* `TimeWindow.resolve` — the window that begin, end and zone ask for.
-/

namespace HydroArchive

/-- The ways in which a time or a window can be refused. -/
inductive TimeError where
  | unparseable (input : String)
  | unknownZone (name : String)
  | ambiguousOffset (input : String)
  | invertedWindow (beginTime endTime : String)
  deriving DecidableEq, Repr

def TimeError.message : TimeError → String
  | .unparseable input => s!"cannot parse '{input}' as an ISO-8601 date-time"
  | .unknownZone name => s!"unknown time zone '{name}'"
  | .ambiguousOffset input =>
    s!"time '{input}' cannot contain only an offset without a named time zone"
  | .invertedWindow beginTime endTime => s!"begin time {beginTime} is after end time {endTime}"

/-- The ways in which a time or a window can fail to come about. -/
inductive TimeFailure where
  | refused (cause : TimeError)
  /-- A sum leads out of the calendar, and no answer is given. -/
  | brokenOff
  deriving DecidableEq, Repr

/-- An instant as it is shown in a zone, if the calendar covers it. -/
def coveredIn (zone : Zone) : Option Instant → Except TimeFailure ZonedTime
  | some t => .ok ⟨t, zone⟩
  | none => .error .brokenOff

def Zone.parse (name : String) : Except TimeError Zone :=
  match Zone.ofName? name with
  | some z => .ok z
  | none => .error (.unknownZone (Text.trim name))

/-- A time that was read: with its zone or offset, or without either. -/
inductive ParsedTime where
  | zoned (time : ZonedTime)
  | wall (time : WallTime)

/-- Cuts off a zone in brackets at the end: the text before it and the name. -/
def splitRegion? (cs : List Char) : Option (List Char × List Char) :=
  if cs.getLast? = some ']' ∧ '[' ∈ cs then
    some (cs.takeWhile (· ≠ '['), ((cs.dropWhile (· ≠ '[')).drop 1).dropLast)
  else none

/-- The text of a time without its zone in brackets, and the zone. -/
def readRegion (cs : List Char) : Except TimeError (List Char × Option Zone) :=
  match splitRegion? cs with
  | none => .ok (cs, none)
  | some (body, name) => do return (body, some (← Zone.parse (String.ofList name)))

/-- The instant and the offset of a time with an offset or `Z`. -/
def readWithOffset? (cs : List Char) : Option (Instant × Int) := do
  let (wall, offset) ← (Time.strict? cs).or (Time.lenient? cs)
  let t := wall.atOffset offset
  if t.inRange then some (t, offset) else none

/-- Whether a time ends in `Z`, which names the zone UTC. -/
def endsInZ (cs : List Char) : Bool := cs.getLast? == some 'Z' || cs.getLast? == some 'z'

def parseTime (input : String) : Except TimeFailure ParsedTime := do
  let (body, region) ← (readRegion (Text.trimChars input.toList)).mapError .refused
  match readWithOffset? body with
  | some (t, offset) =>
    let zone := match region with
      | some z => z
      | none => if endsInZ body then Zone.utc else .offset offset
    return .zoned ⟨t, zone⟩
  | none =>
    match Time.local? body, region with
    | some w, some z => return .zoned (← coveredIn z (z.localize w))
    | some w, none => return .wall w
    | none, _ => throw (.refused (.unparseable input))

/-- What was read, where a time without a zone is read in the zone given. -/
def ParsedTime.resolve (zone : Zone) : ParsedTime → Except TimeFailure ZonedTime
  | .zoned z => .ok z
  | .wall w => coveredIn zone (zone.localize w)

/-- A window of instants, both ends included, and the zone in which it is shown. -/
structure TimeWindow where
  beginTime : ZonedTime
  endTime : ZonedTime
  zone : Zone

namespace TimeWindow

/-- How many seconds before `now` a window begins when no begin is given. -/
def defaultLength : Int := 24 * 3600

def contains (w : TimeWindow) (t : Instant) : Bool :=
  w.beginTime.instant ≤ t && t ≤ w.endTime.instant

/-- The time that a text stands for: what it says, read in `zone` where it names none, or `default`
where there is no text. -/
def timeOf (text : Option String) (zone : Zone) (default : Option Instant) :
    Except TimeFailure ZonedTime :=
  match text with
  | some text => do (← parseTime text).resolve zone
  | none => coveredIn zone default

/-- The zone of a window: the one that is given, else the one that the begin names. -/
def resolveZone (given : Option Zone) (beginText : Option String) (beginTime : ZonedTime) :
    Except TimeFailure Zone :=
  match given with
  | some z => .ok z
  | none =>
    if beginTime.zone.isOffset then .error (.refused (.ambiguousOffset (beginText.getD "")))
    else .ok beginTime.zone

/-- The window that begin, end and zone ask for at the time `now`, where it ends without an end of
its own. -/
def resolve (beginText endText zoneName : Option String) (now : Instant) :
    Except TimeFailure TimeWindow := do
  let given ← ((Text.nonBlank? zoneName).mapM Zone.parse).mapError .refused
  let beginText := Text.nonBlank? beginText
  let beginTime ← timeOf beginText (given.getD Zone.utc) (now.plus? (-defaultLength))
  let zone ← resolveZone given beginText beginTime
  let endTime ← timeOf (Text.nonBlank? endText) beginTime.zone (some now)
  if endTime.instant < beginTime.instant then
    throw (.refused (.invertedWindow beginTime.text endTime.text))
  return ⟨beginTime, endTime, zone⟩

end TimeWindow

end HydroArchive
