import HydroArchive.Page.Fold
import HydroArchive.Page.Key
import HydroArchive.Text.Ascii
import HydroArchive.Text.Blank
import HydroArchive.Time.Instant

/-!
# What the archive holds

Offices run gauges.  A series is what is measured at one place, and its readings are the values over
time.  Locations are the places; they are assigned to groups, where each may have an alias, and
groups belong to categories.  Series have categories and groups of their own.

## Main definitions

* `Office`, `Series`, `Reading`, `Location`, `Category`, `LocationGroup`, `Assignment`,
  `SeriesGroup` — the entities.
* `SeriesEntry`, `LocationRow`, `GroupRow` — rows of the listings that stores answer with.
* `LocationRow.join`, `GroupRow.join` — how the joined rows fold.
-/

namespace HydroArchive

structure Office where
  id : String
  longName : String
  typeCode : String
  reportsTo : Option String
  deriving DecidableEq

/-- What an office type code stands for. -/
def officeTypeName (code : String) : String :=
  match Text.asciiUpper (Text.trim code) with
  | "HQ" => "corps headquarters"
  | "MSC" => "division headquarters"
  | "MSCR" => "division regional"
  | "DIS" => "district"
  | "FOA" => "field operating activity"
  | _ => "unknown"

structure Series where
  office : String
  id : String
  /-- The unit in which the readings are stored. -/
  storageUnit : String
  siUnit : String
  enUnit : String
  /-- Zero for an irregular series. -/
  intervalMinutes : Int
  deriving DecidableEq

def Series.key (s : Series) : CatalogKey := ⟨s.office, s.id⟩

structure Reading where
  time : Instant
  value : Option Float
  quality : Option Int

/-- The quality that is reported for a reading stored without one. -/
def defaultQuality : Int := 5

/-- An entry of the catalog of series. -/
structure SeriesEntry where
  office : String
  id : String
  units : String
  intervalMinutes : Int
  deriving DecidableEq

def SeriesEntry.key (e : SeriesEntry) : CatalogKey := ⟨e.office, e.id⟩

def Series.entry (s : Series) : SeriesEntry := ⟨s.office, s.id, s.storageUnit, s.intervalMinutes⟩

structure Location where
  office : String
  id : String
  nearestCity : Option String
  publicName : Option String
  longName : Option String
  description : Option String
  kind : Option String
  timeZone : Option String
  latitude : Option Float
  longitude : Option Float
  /-- In metres. -/
  elevation : Option Float
  state : Option String
  county : Option String
  nation : Option String
  active : Bool

def Location.key (l : Location) : CatalogKey := ⟨l.office, l.id⟩

/-- Whether an office and an identifier name the location; case does not count. -/
def Location.isNamed (l : Location) (office id : String) : Bool :=
  Text.sameFold l.office office && Text.sameFold l.id id

structure Category where
  office : String
  id : String
  description : Option String
  deriving DecidableEq

structure LocationGroup where
  category : Category
  office : String
  id : String
  description : Option String
  sharedAlias : Option String
  sharedReference : Option String
  /-- The place among other groups. -/
  rank : Option Int
  deriving DecidableEq

/-- The assignment of a location to a group. -/
structure Assignment where
  location : String
  office : String
  aliasName : Option String
  /-- The place among the assignments of the group. -/
  rank : Option Int
  reference : Option String
  deriving DecidableEq

structure SeriesGroup where
  category : Category
  office : String
  id : String
  description : Option String
  sharedAlias : Option String
  sharedReference : Option String
  deriving DecidableEq

/-! ## Order

Listings are ordered by the upper case of their columns, by the mapping of the store. -/

def Office.columns (upper : String → String) (o : Office) : List String := [upper o.id]

def Category.columns (upper : String → String) (c : Category) : List String :=
  [upper c.office, upper c.id]

def LocationGroup.columns (upper : String → String) (g : LocationGroup) : List String :=
  [upper g.office, upper g.category.id, upper g.id]

def SeriesGroup.columns (upper : String → String) (g : SeriesGroup) : List String :=
  [upper g.office, upper g.category.id, upper g.id]

/-- Whether an assignment may stand before another within a group: the smaller rank first, none
last, then by the upper case of the locations. -/
def Assignment.standsBefore (upper : String → String) (a b : Assignment) : Bool :=
  let byLocation := Text.columnsLE [upper a.location] [upper b.location]
  match a.rank, b.rank with
  | some m, some n => decide (m < n) || (m == n && byLocation)
  | some _, none => true
  | none, some _ => false
  | none, none => byLocation

/-! ## Joined rows -/

/-- A location joined with one of its assignments; without one the last three are absent. -/
structure LocationRow where
  location : Location
  category : Option String
  group : Option String
  aliasName : Option String

/-- The row of a location without assignments. -/
def LocationRow.bare (l : Location) : LocationRow := ⟨l, none, none, none⟩

/-- What a location is called in a group. -/
structure LocationAlias where
  /-- The category and the group, with a hyphen between them. -/
  name : String
  value : String
  deriving DecidableEq

def LocationRow.alias? (r : LocationRow) : Option LocationAlias := do
  let category ← r.category
  let group ← r.group
  let value ← r.aliasName
  return ⟨s!"{category}-{group}", value⟩

/-- The rows of one location fold into the location with its aliases. -/
def LocationRow.join : Join LocationRow CatalogKey Location LocationAlias :=
  ⟨fun r => r.location.key, LocationRow.location, LocationRow.alias?⟩

/-- A group of locations joined with one of its assignments. -/
structure GroupRow where
  group : LocationGroup
  assignment : Option Assignment

/-- The rows of one group fold into the group with its assignments; case does not keep groups
apart. -/
def GroupRow.join : Join GroupRow (List String) LocationGroup Assignment :=
  ⟨fun r => r.group.columns Text.upper, GroupRow.group, GroupRow.assignment⟩

end HydroArchive
