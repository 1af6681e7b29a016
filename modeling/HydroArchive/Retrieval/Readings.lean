import HydroArchive.Retrieval.Request
import HydroArchive.Store.Queries

/-!
# Pages of readings

A page of readings shows the series, the window that was asked for, and the readings of the window
that come after the page before.

The number of readings in the window is counted for the first page and goes along in the token from
there.

## Main definitions

* `ReadingsPage` — the page.
* `retrieveReadings` — the page that a request asks for.
-/

namespace HydroArchive

/-- A reading as it is shown, with the quality filled in. -/
structure ShownReading where
  time : Instant
  value : Option Float
  quality : Int

/-- A reading stored without a quality has the default one. -/
def Reading.shown (r : Reading) : ShownReading := ⟨r.time, r.value, r.quality.getD defaultQuality⟩

structure ReadingsPage where
  /-- The cursor that the page was asked for with. -/
  cursor : Option String
  /-- The cursor of the next page; absent on the last. -/
  next : Option String
  pageSize : Int32
  total : Option UInt64
  name : String
  office : String
  /-- The ends of the window, in its zone. -/
  beginTime : ZonedTime
  endTime : ZonedTime
  zone : Zone
  units : String
  intervalMinutes : Int
  readings : List ShownReading

/-- The unit in which readings are shown: the one of the English system unless the request names a
system or a unit. -/
def shownUnit (units : Option String) (series : Series) : String :=
  match Text.nonBlank? units with
  | none => series.enUnit
  | some name =>
    match UnitSystem.parse? name with
    | some .si => series.siUnit
    | some .en => series.enUnit
    | none => name

/-- What a request for readings means, before the store is asked. -/
def planReadings (request : ReadingsRequest) (now : Instant) :
    Except RetrievalError (TimeWindow × PagePlan ValuesQuery) := do
  let token ← requestedToken request.cursor .values
  let window ← (TimeWindow.resolve request.beginText request.endText request.zoneName now).mapError
    .invalidTime
  let plan ← (ValuesQuery.plan token window request.pageSize).mapError .malformedCursor
  return (window, plan)

/-- The series that a request names. -/
def requestedSeries (store : Queries) (request : ReadingsRequest) :
    Except RetrievalError Series := do
  match ← (store.series (Text.nonBlank? request.office) request.name).mapError .store with
  | some series => return series
  | none => throw (.notFound .series request.name)

/-- The total of a listing: counted for a first page, known from the token later. -/
def listingTotal {α : Type} (plan : PagePlan α) (count : Except StoreError Nat) :
    Except RetrievalError (Option UInt64) :=
  if plan.isFirstPage then (count.map fun n => some (UInt64.ofNat n)).mapError .store
  else .ok plan.knownTotal

/-- The readings on a page, and whether there are more; none when the page holds no rows. -/
def pageReadings (store : Queries) (series : Series) (unit : String) (plan : PagePlan ValuesQuery) :
    Except RetrievalError (List Reading × Bool) :=
  if 0 < plan.pageSize then
    ((store.readings series unit plan.query).map fun rows => splitPage rows plan.pageSize).mapError
      .store
  else .ok ([], false)

/-- The page of readings that a request asks for at the time `now`. -/
def retrieveReadings (store : Queries) (request : ReadingsRequest) (now : Instant) :
    Except RetrievalError ReadingsPage := do
  let (window, plan) ← planReadings request now
  let series ← requestedSeries store request
  let unit := shownUnit request.units series
  let total ← listingTotal plan
    (store.countReadings series plan.query.beginTime plan.query.endTime)
  let (rows, hasMore) ← pageReadings store series unit plan
  let next := nextToken .values (rows.getLast?.map fun r => instantKey r.time) hasMore plan.pageSize
    total
  return {
    cursor := Text.nonBlank? request.cursor
    next := next.map PageToken.encode
    pageSize := plan.pageSize
    total := total
    name := series.id
    office := series.office
    beginTime := ⟨window.beginTime.instant, window.zone⟩
    endTime := ⟨window.endTime.instant, window.zone⟩
    zone := window.zone
    units := unit
    intervalMinutes := series.intervalMinutes
    readings := rows.map Reading.shown }

end HydroArchive
