import HydroArchive.Retrieval.Error
import HydroArchive.Store.Queries

/-!
# Reference listings

Offices, categories and groups are handed out whole, without pages.  Blank filters are no filters.

## Main definitions

* `listOffices`, `listLocationCategories`, `listLocationGroups`, `listSeriesCategories`,
  `listSeriesGroups` — the listings.
* `findOffice`, `findLocationCategory`, `findLocationGroup`, `findSeriesCategory` — single lookups.
* `checkHealth` — whether the store can be reached.
-/

namespace HydroArchive

structure OfficeEntry where
  name : String
  longName : String
  /-- What the type code stands for. -/
  type : String
  reportsTo : Option String
  deriving DecidableEq

/-- An office is shown with its type spelled out. -/
def Office.entry (o : Office) : OfficeEntry :=
  ⟨o.id, o.longName, officeTypeName o.typeCode, o.reportsTo⟩

/-- A group of locations with the locations that are assigned to it. -/
structure GroupContents where
  group : LocationGroup
  assigned : List Assignment
  deriving DecidableEq

/-- What a lookup found, or the failure that names what was sought. -/
def foundOr {α : Type} (sought : Sought) (id : String) (answer : Except StoreError (Option α)) :
    Except RetrievalError α := do
  match ← answer.mapError .store with
  | some a => return a
  | none => throw (.notFound sought id)

variable (store : Queries)

def listOffices : Except RetrievalError (List OfficeEntry) :=
  (store.offices.map fun rows => rows.map Office.entry).mapError .store

def findOffice (id : String) : Except RetrievalError OfficeEntry :=
  (foundOr .office id (store.office id)).map Office.entry

def listLocationCategories (office : Option String) : Except RetrievalError (List Category) :=
  (store.locationCategories (Text.nonBlank? office)).mapError .store

def findLocationCategory (office : Option String) (id : String) : Except RetrievalError Category :=
  foundOr .locationCategory id (store.locationCategory (Text.nonBlank? office) id)

/-- The groups of locations, without the locations assigned to them. -/
def listLocationGroups (office : Option String) : Except RetrievalError (List GroupContents) :=
  ((store.locationGroups (Text.nonBlank? office)).map fun rows =>
    rows.map fun g => ⟨g, []⟩).mapError .store

/-- One group of locations with the locations assigned to it. -/
def findLocationGroup (office category group : String) : Except RetrievalError GroupContents := do
  let rows ← (store.locationGroup office category group).mapError .store
  match fold GroupRow.join rows with
  | first :: _ => return ⟨first.parent, first.children⟩
  | [] => throw (.notFound .locationGroup s!"{category}/{group}")

def listSeriesCategories (office : Option String) : Except RetrievalError (List Category) :=
  (store.seriesCategories (Text.nonBlank? office)).mapError .store

def findSeriesCategory (office : Option String) (id : String) : Except RetrievalError Category :=
  foundOr .seriesCategory id (store.seriesCategory (Text.nonBlank? office) id)

/-- The groups of series that pass the filters. -/
def listSeriesGroups (office category group : Option String) :
    Except RetrievalError (List SeriesGroup) :=
  (store.seriesGroups (Text.nonBlank? office) (Text.nonBlank? category)
    (Text.nonBlank? group)).mapError .store

/-- Whether the store can be reached. -/
def checkHealth : Except RetrievalError Bool := store.health.mapError .store

end HydroArchive
