import HydroArchive.Store.Queries
import HydroArchive.Store.Stored
import HydroArchive.Store.Timeline

/-!
# The store in memory

A store that keeps everything in lists, in the order in which it was added.  Nothing is checked when
it is added: names may repeat, and groups may belong to categories that are not there.  Answers are
sorted when they are asked for.

A store can be marked unhealthy; then every question but that for its health fails.

## Main definitions

* `MemoryStore` — the contents, and the operations that change them.
* `MemoryStore.queries` — the answers.
-/

namespace HydroArchive

/-- What is stored of a reading besides its time. -/
structure StoredValue where
  value : Option Float
  quality : Option Int

/-- A series with its readings, in the storage unit of the series. -/
structure StoredSeries where
  series : Series
  values : Timeline StoredValue

/-- Whether an assignment belongs to a group; case does not count. -/
def StoredAssignment.belongsTo (a : StoredAssignment) (office category group : String) : Bool :=
  Text.sameFold a.assignment.office office && Text.sameFold a.category category &&
    Text.sameFold a.group group

/-- The contents of a store. -/
structure MemoryStore where
  offices : List Office := []
  series : List StoredSeries := []
  locations : List Location := []
  locationCategories : List Category := []
  locationGroups : List LocationGroup := []
  assignments : List StoredAssignment := []
  seriesCategories : List Category := []
  seriesGroups : List SeriesGroup := []
  conversions : List StoredConversion := []
  healthy : Bool := true

/-- Whether a series has an office and an identifier; case does not count. -/
def StoredSeries.isNamed (s : StoredSeries) (office id : String) : Bool :=
  Text.sameFold s.series.office office && Text.sameFold s.series.id id

/-- Stores readings; of two at the same instant the later one in the list stays. -/
def StoredSeries.addReadings (s : StoredSeries) (readings : List Reading) : StoredSeries :=
  { s with values := readings.foldl (fun l r => l.insert r.time ⟨r.value, r.quality⟩) s.values }

namespace MemoryStore

/-! ## Changes -/

def addOffice (m : MemoryStore) (o : Office) : MemoryStore := { m with offices := m.offices ++ [o] }

/-- Adds a series without readings. -/
def addSeries (m : MemoryStore) (s : Series) : MemoryStore :=
  { m with series := m.series ++ [⟨s, .empty⟩] }

def addLocation (m : MemoryStore) (l : Location) : MemoryStore :=
  { m with locations := m.locations ++ [l] }

def addLocationCategory (m : MemoryStore) (c : Category) : MemoryStore :=
  { m with locationCategories := m.locationCategories ++ [c] }

def addLocationGroup (m : MemoryStore) (g : LocationGroup) : MemoryStore :=
  { m with locationGroups := m.locationGroups ++ [g] }

/-- Assigns a location to a group of its office. -/
def assign (m : MemoryStore) (category group : String) (a : Assignment) : MemoryStore :=
  { m with assignments := m.assignments ++ [⟨category, group, a⟩] }

def addSeriesCategory (m : MemoryStore) (c : Category) : MemoryStore :=
  { m with seriesCategories := m.seriesCategories ++ [c] }

def addSeriesGroup (m : MemoryStore) (g : SeriesGroup) : MemoryStore :=
  { m with seriesGroups := m.seriesGroups ++ [g] }

/-- Adds a conversion; it takes the place of one between the same units. -/
def addConversion (m : MemoryStore) (source target : String) (c : Conversion) : MemoryStore :=
  { m with conversions := ⟨source, target, c⟩ ::
      m.conversions.filter fun k => !k.isBetween source target }

def setHealthy (m : MemoryStore) (healthy : Bool) : MemoryStore := { m with healthy := healthy }

/-- Removes all contents; the mark of health stays. -/
def clear (m : MemoryStore) : MemoryStore := { healthy := m.healthy }

/-- The failure of storing readings for a series that is not there. -/
def missingSeries (office id : String) : StoreError :=
  ⟨.notFound, s!"time series {id} not found",
    { operation := some "add_values", entity := some "timeseries", id := some s!"{office}/{id}" }⟩

/-- Changes the first series that a test accepts. -/
def updateFirst (accepts : StoredSeries → Bool) (change : StoredSeries → StoredSeries) :
    List StoredSeries → Option (List StoredSeries)
  | [] => none
  | s :: rest =>
    if accepts s then some (change s :: rest)
    else (updateFirst accepts change rest).map (s :: ·)

/-- Stores readings of the first series whose office and identifier match, in its storage unit.  The
answer is the new contents and the number of readings given. -/
def addReadings (m : MemoryStore) (office id : String) (readings : List Reading) :
    Except StoreError (MemoryStore × Nat) :=
  match updateFirst (·.isNamed office id) (·.addReadings readings) m.series with
  | some series => .ok ({ m with series := series }, readings.length)
  | none => .error (missingSeries office id)

/-! ## Answers -/

/-- The failure of every question to an unhealthy store. -/
def unhealthy (operation : String) : StoreError :=
  ⟨.connection, "local repository is marked unhealthy", { operation := some operation }⟩

/-- An answer, if the store is healthy. -/
def whenHealthy {α : Type} (m : MemoryStore) (operation : String) (answer : Except StoreError α) :
    Except StoreError α :=
  if m.healthy then answer else .error (unhealthy operation)

section WhenHealthy

variable {m : MemoryStore} {α : Type} {operation : String} {answer : Except StoreError α}

@[simp] theorem whenHealthy_of_healthy (h : m.healthy = true) :
    m.whenHealthy operation answer = answer := if_pos h

@[simp] theorem whenHealthy_eq_ok {a : α} :
    m.whenHealthy operation answer = .ok a ↔ m.healthy = true ∧ answer = .ok a := by
  rw [whenHealthy]
  cases m.healthy <;> simp

end WhenHealthy

/-- The first stored series whose office and identifier match. -/
def findSeries? (m : MemoryStore) (office id : String) : Option StoredSeries :=
  m.series.find? (·.isNamed office id)

def conversion? (m : MemoryStore) (source target : String) : Option Conversion :=
  if source = target then some .identity
  else (m.conversions.find? (·.isBetween source target)).map StoredConversion.conversion

/-- The series with an identifier in an office or in all, in catalog order. -/
def seriesNamed (m : MemoryStore) (office : Option String) (id : String) : List Series :=
  CatalogKey.sortRows Text.upper Series.key <|
    (m.series.map StoredSeries.series).filter fun s =>
      officePasses office s.office && Text.sameFold s.id id

/-- The failure of converting readings of a series. -/
def cannotConvert (source target id : String) : StoreError :=
  ⟨.validation, s!"cannot convert from {source} to {target}",
    { operation := some "query_values", entity := some "timeseries", id := some id }⟩

def readingOf (e : Instant × StoredValue) : Reading := ⟨e.1, e.2.value, e.2.quality⟩

/-- The readings that a query admits, within the window of the query and in a unit. -/
def readings (m : MemoryStore) (series : Series) (unit : String) (q : ValuesQuery) :
    Except StoreError (List Reading) :=
  match m.findSeries? series.office series.id with
  | none => .ok []
  | some stored =>
    match m.conversion? stored.series.storageUnit unit with
    | none => .error (cannotConvert stored.series.storageUnit unit series.id)
    | some c =>
      .ok <| (takeLimit q.limit
        ((stored.values.between q.beginTime q.endTime).filter fun e => q.admits e.1)).map fun e =>
          (readingOf e).convert c

/-- The number of readings of a series between two instants. -/
def countReadings (m : MemoryStore) (series : Series) (first last : Instant) : Nat :=
  match m.findSeries? series.office series.id with
  | none => 0
  | some stored => (stored.values.between first last).length

/-- The entries of the series catalog that a query admits. -/
def seriesCatalog (m : MemoryStore) (q : CatalogQuery) : List SeriesEntry :=
  takeLimit q.limit <| CatalogKey.sortRows Text.upper SeriesEntry.key <|
    (m.series.map fun s => s.series.entry).filter fun e => q.admits e.key

/-- The assignments of a location, by category and group. -/
def assignmentsOf (m : MemoryStore) (l : Location) : List StoredAssignment :=
  Text.sortByColumns (StoredAssignment.columns Text.upper) <| m.assignments.filter fun a =>
    l.isNamed a.assignment.office a.assignment.location

/-- The rows of a location. -/
def rowsOf (m : MemoryStore) (l : Location) : List LocationRow := l.rows (m.assignmentsOf l)

/-- The locations of the catalog that a query admits. -/
def locationsAdmitted (m : MemoryStore) (q : CatalogQuery) : List Location :=
  takeLimit q.limit <| CatalogKey.sortRows Text.upper Location.key <|
    m.locations.filter fun l => q.admits l.key

/-- The locations with an identifier in an office or in all, in catalog order. -/
def locationsNamed (m : MemoryStore) (office : Option String) (id : String) : List Location :=
  CatalogKey.sortRows Text.upper Location.key <| m.locations.filter fun l =>
    officePasses office l.office && Text.sameFold l.id id

/-- Categories of an office or of all, in order. -/
def categoriesOf (office : Option String) (categories : List Category) : List Category :=
  Text.sortByColumns (Category.columns Text.upper) <| categories.filter fun c =>
    officePasses office c.office

/-- The first category with an identifier. -/
def categoryNamed? (id : String) (categories : List Category) : Option Category :=
  categories.find? fun c => Text.sameFold c.id id

/-- The groups of locations of an office or of all, in order. -/
def locationGroupsOf (m : MemoryStore) (office : Option String) : List LocationGroup :=
  Text.sortByColumns (LocationGroup.columns Text.upper) <| m.locationGroups.filter fun g =>
    officePasses office g.office

/-- The first group of locations with a name. -/
def findGroup? (m : MemoryStore) (office category group : String) : Option LocationGroup :=
  m.locationGroups.find? fun g =>
    Text.sameFold g.office office && Text.sameFold g.category.id category &&
      Text.sameFold g.id group

/-- The assignments to a group, in order. -/
def assignmentsTo (m : MemoryStore) (office category group : String) : List Assignment :=
  ((m.assignments.filter (·.belongsTo office category group)).map
    StoredAssignment.assignment).mergeSort (Assignment.standsBefore Text.upper)

def groupRows (m : MemoryStore) (office category group : String) : List GroupRow :=
  match m.findGroup? office category group with
  | none => []
  | some g => g.rows (m.assignmentsTo office category group)

/-- Whether an identifier passes a filter; without a filter every one does. -/
def idPasses (filter : Option String) (id : String) : Bool :=
  match filter with
  | some wanted => Text.sameFold id wanted
  | none => true

@[simp] theorem idPasses_none (id : String) : idPasses none id = true := rfl

/-- The groups of series that pass the filters, in order. -/
def seriesGroupsOf (m : MemoryStore) (office category group : Option String) : List SeriesGroup :=
  Text.sortByColumns (SeriesGroup.columns Text.upper) <| m.seriesGroups.filter fun g =>
    officePasses office g.office && idPasses category g.category.id && idPasses group g.id

def queries (m : MemoryStore) : Queries where
  series office id :=
    m.whenHealthy "fetch_timeseries_metadata" <| .ok (m.seriesNamed office id).head?
  countReadings series first last :=
    m.whenHealthy "count_values" <| .ok (m.countReadings series first last)
  readings series unit q := m.whenHealthy "query_values" <| m.readings series unit q
  countSeries office := m.whenHealthy "count_timeseries" <|
    .ok (m.series.countP fun s => officePasses office s.series.office)
  seriesCatalog q := m.whenHealthy "query_timeseries_catalog" <| .ok (m.seriesCatalog q)
  countLocations office := m.whenHealthy "count_locations" <|
    .ok (m.locations.countP fun l => officePasses office l.office)
  locationCatalog q := m.whenHealthy "query_location_catalog" <|
    .ok ((m.locationsAdmitted q).flatMap m.rowsOf)
  location office id := m.whenHealthy "fetch_location" <|
    .ok (match (m.locationsNamed office id).head? with
      | some l => m.rowsOf l
      | none => [])
  offices := m.whenHealthy "list_offices" <|
    .ok (Text.sortByColumns (Office.columns Text.upper) m.offices)
  office id := m.whenHealthy "fetch_office" <|
    .ok (m.offices.find? fun o => Text.sameFold o.id id)
  locationCategories office := m.whenHealthy "list_location_categories" <|
    .ok (categoriesOf office m.locationCategories)
  locationCategory office id := m.whenHealthy "list_location_categories" <|
    .ok (categoryNamed? id (categoriesOf office m.locationCategories))
  locationGroups office := m.whenHealthy "list_location_groups" <| .ok (m.locationGroupsOf office)
  locationGroup office category group := m.whenHealthy "query_location_group" <|
    .ok (m.groupRows office category group)
  seriesCategories office := m.whenHealthy "list_timeseries_categories" <|
    .ok (categoriesOf office m.seriesCategories)
  seriesCategory office id := m.whenHealthy "list_timeseries_categories" <|
    .ok (categoryNamed? id (categoriesOf office m.seriesCategories))
  seriesGroups office category group := m.whenHealthy "list_timeseries_groups" <|
    .ok (m.seriesGroupsOf office category group)
  health := .ok m.healthy

end MemoryStore

end HydroArchive
