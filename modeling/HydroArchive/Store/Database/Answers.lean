import HydroArchive.Store.Database.Changes
import HydroArchive.Store.Queries

/-!
# Answers of the database

Each question is answered by one or more statements, in a fixed order; the first one that is refused
makes the whole question fail.

The database compares the upper case of a column by the simple mapping with the upper case of what
is asked for by the full one.  So a column with a character whose full upper case has several is not
found by its own name.  Listings are ordered by the simple mapping, and texts by code points.

## Main definitions

* `columnMatches` — how a column is compared with what is asked for.
* `Database.queries` — the answers.
-/

namespace HydroArchive

def columnMatches (wanted column : String) : Bool := Text.upper wanted == Text.simpleUpper column

/-- Whether a column passes a filter; without a filter every column does. -/
def columnPasses (filter : Option String) (column : String) : Bool :=
  match filter with
  | some wanted => columnMatches wanted column
  | none => true

/-- The texts that a query of a catalog hands over. -/
def CatalogQuery.arguments (q : CatalogQuery) : List Argument :=
  Argument.texts <| q.office :: match q.after with
    | .start => []
    | .after resume => [some resume.id, some resume.office]

/-- Whether a query admits a row with a key: the columns of the row must come after the columns of
the resume key. -/
def CatalogQuery.admitsRow (q : CatalogQuery) (key : CatalogKey) : Bool :=
  columnPasses q.office key.office &&
    match q.after with
    | .start => true
    | .after resume =>
      compare (resume.columns Text.upper) (key.columns Text.simpleUpper) == .lt

/-- The times that a query of readings hands over: the end of the window, and where the page
starts. -/
def ValuesQuery.arguments (q : ValuesQuery) : List Argument :=
  [.time q.endTime, .time (match q.after with
    | .start => q.beginTime
    | .after key => key)]

/-- A query with its times as the database keeps them. -/
def ValuesQuery.kept (q : ValuesQuery) : ValuesQuery :=
  { q with
    after := match q.after with
      | .start => .start
      | .after key => .after key.kept
    beginTime := q.beginTime.kept
    endTime := q.endTime.kept }

namespace Database

/-- Names the operation in the failure of a statement. -/
def during {α : Type} (operation : String) (answer : Except StoreError α) : Except StoreError α :=
  answer.mapError (·.withOperation operation)

/-- The series with an identifier in an office or in all, the first in catalog order. -/
def findSeries (d : Database) (office : Option String) (id : String) :
    Except StoreError (Option NumberedSeries) := do
  let found := (← d.series.select (Argument.texts [some id, office])).filter fun n =>
    columnMatches id n.series.id && columnPasses office n.series.office
  return (CatalogKey.sortRows Text.simpleUpper (fun n => n.series.key) found).head?

/-- The readings of a numbered series, ascending in time. -/
def readingsOf (number : Nat) (readings : List NumberedReading) : List Reading :=
  ((readings.filter fun n => n.number == number).map NumberedReading.reading).mergeSort fun a b =>
    decide (a.time ≤ b.time)

/-- The number of readings of a series between two instants. -/
def countReadings (d : Database) (s : Series) (first last : Instant) : Except StoreError Nat := do
  match ← d.findSeries (some s.office) s.id with
  | none => return 0
  | some n =>
    let readings ← d.readings.select [.time first, .time last]
    return (readingsOf n.number readings).countP fun r =>
      decide (first.kept ≤ r.time) && decide (r.time ≤ last.kept)

/-- The failure of converting between two units. -/
def cannotConvert (source target : String) : StoreError :=
  ⟨.validation, s!"cannot convert from {source} to {target}",
    { operation := some "unit_conversion", entity := some "unit" }⟩

/-- The conversion between two units.  Between a unit and itself no statement is needed. -/
def conversion (d : Database) (source target : String) : Except StoreError Conversion := do
  if source = target then return .identity
  let conversions ← d.conversions.select [.text source, .text target]
  match conversions.find? (·.isBetween source target) with
  | some c => return c.conversion
  | none => throw (cannotConvert source target)

/-- The readings of a series that a query admits, in a unit. -/
def admittedReadings (d : Database) (s : Series) (unit : String) (q : ValuesQuery) :
    Except StoreError (List Reading) := do
  match ← d.findSeries (some s.office) s.id with
  | none => return []
  | some n =>
    let c ← d.conversion n.series.storageUnit unit
    let readings ← d.readings.selectUpTo q.limit q.arguments
    let admitted := (readingsOf n.number readings).filter fun r => q.kept.admits r.time
    return (takeLimit q.limit admitted).map (Reading.convert c)

/-- The rows of a catalog that a query admits. -/
def page {α : Type} (t : Table α) (key : α → CatalogKey) (q : CatalogQuery) :
    Except StoreError (List α) := do
  let admitted := (← t.selectUpTo q.limit q.arguments).filter fun row => q.admitsRow (key row)
  return takeLimit q.limit (CatalogKey.sortRows Text.simpleUpper key admitted)

/-- The number of rows of an office, or of all rows. -/
def countOf {α : Type} (t : Table α) (rowOffice : α → String) (office : Option String) :
    Except StoreError Nat := do
  return (← t.select (Argument.texts [office])).countP fun row =>
    columnPasses office (rowOffice row)

/-- Joins locations with their assignments.  Without locations no statement is needed.  The
statement asks for the assignments of any of the offices and of any of the identifiers; those that
belong to a location have its names up to the case of `A` to `Z`. -/
def join (d : Database) (locations : List Location) : Except StoreError (List LocationRow) := do
  if locations.isEmpty then return []
  let offices := locations.map fun l => Text.upper l.office
  let ids := locations.map fun l => Text.upper l.id
  let found := (← d.assignments.select []).filter fun a =>
    offices.contains (Text.simpleUpper a.assignment.office) &&
      ids.contains (Text.simpleUpper a.assignment.location)
  let assignments := Text.sortByColumns (StoredAssignment.columns Text.simpleUpper) found
  return locations.flatMap fun l => l.rows <| assignments.filter fun a =>
    l.isNamed a.assignment.office a.assignment.location

/-- The location with an identifier, of the first office where there are several. -/
def location (d : Database) (office : Option String) (id : String) :
    Except StoreError (List LocationRow) := do
  let found := (← d.locations.select (Argument.texts [some id, office])).filter fun l =>
    columnMatches id l.id && columnPasses office l.office
  d.join ((Text.sortByColumns (fun l => [Text.simpleUpper l.office]) found).take 1)

def officesInOrder (d : Database) : Except StoreError (List Office) := do
  return Text.sortByColumns (Office.columns Text.simpleUpper) (← d.offices.select [])

/-- The office with an identifier, the one that was added first where there are several. -/
def findOffice (d : Database) (id : String) : Except StoreError (Option Office) := do
  return (← d.offices.select [.text id]).find? fun o => columnMatches id o.id

/-- The categories in a table, of an office or of all. -/
def categories (t : Table Category) (office : Option String) :
    Except StoreError (List Category) := do
  let found := (← t.select (Argument.texts [office])).filter fun c =>
    columnPasses office c.office
  return Text.sortByColumns (Category.columns Text.simpleUpper) found

/-- The first of the categories in a table with an identifier, up to the case of `A` to `Z`.  The
statement does not name it. -/
def category (t : Table Category) (office : Option String) (id : String) :
    Except StoreError (Option Category) := do
  return (← categories t office).find? fun c => Text.sameFold c.id id

/-- The groups of locations, of an office or of all. -/
def locationGroupsOf (d : Database) (office : Option String) :
    Except StoreError (List LocationGroup) := do
  let records := (← d.locationGroups.select (Argument.texts [office])).filter fun r =>
    columnPasses office r.office
  let known ← categories d.locationCategories office
  return Text.sortByColumns (LocationGroup.columns Text.simpleUpper) <| records.map fun r =>
    r.group (exactCategory known r.office r.category)

/-- One group of locations with its assignments. -/
def groupRows (d : Database) (office category group : String) :
    Except StoreError (List GroupRow) := do
  let records ← d.locationGroups.select [.text office, .text category, .text group]
  match records.find? fun r =>
      columnMatches office r.office && columnMatches category r.category &&
        columnMatches group r.id with
  | none => return []
  | some r =>
    let categories ← d.locationCategories.select [.text r.office, .text r.category]
    let g := r.group (exactCategory categories r.office r.category)
    let assignments ← d.assignments.select [.text r.office, .text r.category, .text r.id]
    let own := assignments.filter fun a =>
      a.assignment.office == r.office && a.category == r.category && a.group == r.id
    return g.rows ((own.map StoredAssignment.assignment).mergeSort
      (Assignment.standsBefore Text.simpleUpper))

/-- The groups of series that pass the filters. -/
def seriesGroupsOf (d : Database) (office category group : Option String) :
    Except StoreError (List SeriesGroup) := do
  let rows ← d.seriesGroups.select (Argument.texts [office, category, group])
  let records := rows.filter fun r =>
    columnPasses office r.office && columnPasses category r.category && columnPasses group r.id
  let known ← categories d.seriesCategories office
  return Text.sortByColumns (SeriesGroup.columns Text.simpleUpper) <| records.map fun r =>
    r.group (exactCategory known r.office r.category)

def queries (d : Database) : Queries where
  series office id := during "fetch_timeseries_metadata" <|
    (d.findSeries office id).map fun n => n.map NumberedSeries.series
  countReadings s first last := during "count_values" (d.countReadings s first last)
  readings s unit q := during "query_values" (d.admittedReadings s unit q)
  countSeries office := during "count_timeseries" <|
    countOf d.series (fun n => n.series.office) office
  seriesCatalog q := during "query_timeseries_catalog" <|
    (page d.series (fun n => n.series.key) q).map fun rows => rows.map fun n => n.series.entry
  countLocations office := during "count_locations" (countOf d.locations Location.office office)
  locationCatalog q := during "query_location_catalog" do d.join (← page d.locations Location.key q)
  location office id := during "fetch_location" (d.location office id)
  offices := during "list_offices" d.officesInOrder
  office id := during "fetch_office" (d.findOffice id)
  locationCategories office := during "list_location_categories" <|
    categories d.locationCategories office
  locationCategory office id := during "fetch_location_category" <|
    category d.locationCategories office id
  locationGroups office := during "list_location_groups" (d.locationGroupsOf office)
  locationGroup office category group := during "query_location_group" <|
    d.groupRows office category group
  seriesCategories office := during "list_timeseries_categories" <|
    categories d.seriesCategories office
  seriesCategory office id := during "fetch_timeseries_category" <|
    category d.seriesCategories office id
  seriesGroups office category group := during "list_timeseries_groups" <|
    d.seriesGroupsOf office category group
  health := .ok true

end Database

end HydroArchive
