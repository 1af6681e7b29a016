import HydroArchive.Store.Database.Table
import HydroArchive.Store.Stored
import HydroArchive.Text.Upper

/-!
# The schema of the database

The database keeps each kind of entity in a table of its own.  Groups and assignments name their
category and their group by identifier.  Indexes keep the keys of the rows apart; series and
locations must differ from others of their office by more than case, by the simple mapping.

## Main definitions

* `NumberedSeries`, `NumberedReading`, `LocationGroupRecord`, `SeriesGroupRecord` — rows that differ
  from the entities.
* `Office.texts`, … — the texts that are handed over with a new row.
* `Office.indexes`, … — the indexes of a table.
* `Database`, `Database.empty` — the tables, and the tables without rows.
-/

namespace HydroArchive

/-! ## Rows -/

/-- A series and the number by which its readings refer to it. -/
structure NumberedSeries where
  number : Nat
  series : Series

/-- A reading of a numbered series. -/
structure NumberedReading where
  number : Nat
  reading : Reading

/-- A group of locations, with the identifier of its category. -/
structure LocationGroupRecord where
  office : String
  category : String
  id : String
  description : Option String
  sharedAlias : Option String
  sharedReference : Option String
  rank : Option Int

/-- A group of series, with the identifier of its category. -/
structure SeriesGroupRecord where
  office : String
  category : String
  id : String
  description : Option String
  sharedAlias : Option String
  sharedReference : Option String

/-- What is said of a category that is not there. -/
def Category.unknown (office id : String) : Category := ⟨office, id, none⟩

/-- Whether a category has exactly this office and identifier. -/
def Category.isExactly (c : Category) (office id : String) : Bool :=
  c.office == office && c.id == id

/-- The category with exactly this office and identifier, or one that is not there. -/
def exactCategory (categories : List Category) (office id : String) : Category :=
  (categories.find? (·.isExactly office id)).getD (.unknown office id)

def LocationGroup.record (g : LocationGroup) : LocationGroupRecord :=
  ⟨g.office, g.category.id, g.id, g.description, g.sharedAlias, g.sharedReference, g.rank⟩

def LocationGroupRecord.group (r : LocationGroupRecord) (category : Category) : LocationGroup :=
  ⟨category, r.office, r.id, r.description, r.sharedAlias, r.sharedReference, r.rank⟩

def SeriesGroup.record (g : SeriesGroup) : SeriesGroupRecord :=
  ⟨g.office, g.category.id, g.id, g.description, g.sharedAlias, g.sharedReference⟩

def SeriesGroupRecord.group (r : SeriesGroupRecord) (category : Category) : SeriesGroup :=
  ⟨category, r.office, r.id, r.description, r.sharedAlias, r.sharedReference⟩

/-! ## Texts of new rows

A new group is handed over with its whole category, and a new assignment with its group. -/

/-- The texts of an office. -/
def Office.texts (o : Office) : List (Option String) :=
  [some o.id, some o.longName, some o.typeCode, o.reportsTo]

def Series.texts (s : Series) : List (Option String) :=
  [some s.office, some s.id, some s.storageUnit, some s.siUnit, some s.enUnit]

def StoredConversion.texts (c : StoredConversion) : List (Option String) :=
  [some c.source, some c.target]

def Location.texts (l : Location) : List (Option String) :=
  [some l.office, some l.id, l.nearestCity, l.publicName, l.longName, l.description, l.kind,
    l.timeZone, l.state, l.county, l.nation]

def Category.texts (c : Category) : List (Option String) :=
  [some c.office, some c.id, c.description]

def LocationGroup.texts (g : LocationGroup) : List (Option String) :=
  g.category.texts ++ [some g.office, some g.id, g.description, g.sharedAlias, g.sharedReference]

def StoredAssignment.texts (a : StoredAssignment) : List (Option String) :=
  [some a.category, some a.group, some a.assignment.office, some a.assignment.location,
    a.assignment.aliasName, a.assignment.reference]

def SeriesGroup.texts (g : SeriesGroup) : List (Option String) :=
  g.category.texts ++ [some g.office, some g.id, g.description, g.sharedAlias, g.sharedReference]

/-! ## Indexes -/

/-- A text in upper case, by the simple mapping. -/
def IndexColumn.upper (s : String) : IndexColumn := .text (Text.simpleUpper s)

/-- The index over the key of the rows. -/
def Index.ofKey {α : Type} (name : String) (columns : α → List IndexColumn) : Index α :=
  ⟨name, columns, true⟩

def Office.indexes (keyIndex : String) : List (Index Office) :=
  [.ofKey keyIndex fun o => [.text o.id]]

/-- The indexes of series.  The key of a series is its number, which no other one has. -/
def NumberedSeries.indexes : List (Index NumberedSeries) :=
  [⟨"timeseries_office_id_uq", fun n => [.upper n.series.office, .upper n.series.id], true⟩,
    ⟨"timeseries_catalog_order_idx", fun n => [.upper n.series.id, .upper n.series.office], false⟩]

/-- The indexes of readings: a series has one reading at a time. -/
def NumberedReading.indexes (keyIndex : String) : List (Index NumberedReading) :=
  [.ofKey keyIndex fun n => [.number n.number, .number n.reading.time.microsSince2000]]

def StoredConversion.indexes (keyIndex : String) : List (Index StoredConversion) :=
  [.ofKey keyIndex fun c => [.text c.source, .text c.target]]

/-- The indexes of locations.  A location has a number as its key, like a series. -/
def Location.indexes : List (Index Location) :=
  [⟨"locations_office_id_uq", fun l => [.upper l.office, .upper l.id], true⟩,
    ⟨"locations_catalog_order_idx", fun l => [.upper l.id, .upper l.office], false⟩]

def Category.indexes (keyIndex : String) : List (Index Category) :=
  [.ofKey keyIndex fun c => [.text c.office, .text c.id]]

def LocationGroupRecord.indexes (keyIndex : String) : List (Index LocationGroupRecord) :=
  [.ofKey keyIndex fun r => [.text r.office, .text r.category, .text r.id]]

def StoredAssignment.indexes (keyIndex : String) : List (Index StoredAssignment) :=
  [.ofKey keyIndex fun a =>
      [.text a.assignment.office, .text a.category, .text a.group, .text a.assignment.location],
    ⟨"location_group_assignments_location_idx",
      fun a => [.text a.assignment.office, .text a.assignment.location], false⟩]

def SeriesGroupRecord.indexes (keyIndex : String) : List (Index SeriesGroupRecord) :=
  [.ofKey keyIndex fun r => [.text r.office, .text r.category, .text r.id]]

/-! ## Tables -/

/-- The tables. -/
structure Database where
  offices : Table Office
  series : Table NumberedSeries
  readings : Table NumberedReading
  conversions : Table StoredConversion
  locations : Table Location
  locationCategories : Table Category
  locationGroups : Table LocationGroupRecord
  assignments : Table StoredAssignment
  seriesCategories : Table Category
  seriesGroups : Table SeriesGroupRecord
  /-- The number of the next series. -/
  nextNumber : Nat := 1

namespace Database

/-- A database without rows, where the indexes over the keys of the tables have given names. -/
def empty (keyIndex : TableName → String) : Database where
  offices := { name := .offices, indexes := Office.indexes (keyIndex .offices) }
  series := { name := .series, indexes := NumberedSeries.indexes }
  readings := { name := .readings, indexes := NumberedReading.indexes (keyIndex .readings) }
  conversions :=
    { name := .conversions, indexes := StoredConversion.indexes (keyIndex .conversions) }
  locations := { name := .locations, indexes := Location.indexes }
  locationCategories :=
    { name := .locationCategories, indexes := Category.indexes (keyIndex .locationCategories) }
  locationGroups :=
    { name := .locationGroups, indexes := LocationGroupRecord.indexes (keyIndex .locationGroups) }
  assignments :=
    { name := .assignments, indexes := StoredAssignment.indexes (keyIndex .assignments) }
  seriesCategories :=
    { name := .seriesCategories, indexes := Category.indexes (keyIndex .seriesCategories) }
  seriesGroups :=
    { name := .seriesGroups, indexes := SeriesGroupRecord.indexes (keyIndex .seriesGroups) }

def setState (d : Database) (state : TableState) : TableName → Database
  | .offices => { d with offices := d.offices.inState state }
  | .series => { d with series := d.series.inState state }
  | .readings => { d with readings := d.readings.inState state }
  | .conversions => { d with conversions := d.conversions.inState state }
  | .locations => { d with locations := d.locations.inState state }
  | .locationCategories =>
    { d with locationCategories := d.locationCategories.inState state }
  | .locationGroups => { d with locationGroups := d.locationGroups.inState state }
  | .assignments => { d with assignments := d.assignments.inState state }
  | .seriesCategories => { d with seriesCategories := d.seriesCategories.inState state }
  | .seriesGroups => { d with seriesGroups := d.seriesGroups.inState state }

end Database

end HydroArchive
