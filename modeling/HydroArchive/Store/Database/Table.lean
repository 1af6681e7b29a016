import HydroArchive.Store.Database.Argument
import HydroArchive.Store.Database.Index

/-!
# Tables

A table keeps its rows in the order in which they were added.  A statement that names tables is
worked off in a fixed order: the database finds the tables, then it takes the arguments, and only
then it reads and adds rows.

A table can be out of order.  Its rows stay, and references to them still hold, but statements that
name the table, or that read it, are refused.  A statement that asks for no rows reads nothing.

## Main definitions

* `TableName`, `TableState`, `Table` — a table, with its rows and the state it is in.
* `Table.select`, `Table.selectUpTo` — statements that read a table.
* `Table.insert` — a statement that adds a row, if the indexes and the references of the table allow
  it.
-/

namespace HydroArchive

/-- The names of the tables, in the order in which they are created. -/
inductive TableName where
  | offices
  | series
  | readings
  | conversions
  | locations
  | locationCategories
  | locationGroups
  | assignments
  | seriesCategories
  | seriesGroups
  deriving DecidableEq, Repr

namespace TableName

/-- The name of a table in the database. -/
def text : TableName → String
  | offices => "offices"
  | series => "timeseries"
  | readings => "timeseries_values"
  | conversions => "unit_conversions"
  | locations => "locations"
  | locationCategories => "location_categories"
  | locationGroups => "location_groups"
  | assignments => "location_group_assignments"
  | seriesCategories => "timeseries_categories"
  | seriesGroups => "timeseries_groups"

def all : List TableName :=
  [offices, series, readings, conversions, locations, locationCategories, locationGroups,
    assignments, seriesCategories, seriesGroups]

def ofText? (s : String) : Option TableName := all.find? fun t => t.text == s

end TableName

/-- What becomes of the statements that name a table. -/
inductive TableState where
  /-- They are worked off. -/
  | sound
  /-- The table is not found. -/
  | hidden
  /-- Whoever reads the table is told a message.  Rows can be added all the same; they are kept in a
  table behind this one. -/
  | failing (message : String)
  deriving DecidableEq, Repr

structure Table (α : Type) where
  name : TableName
  /-- The indexes in the order in which they were created. -/
  indexes : List (Index α)
  /-- The rows in the order in which they were added. -/
  rows : List α := []
  state : TableState := .sound

/-- A reference of a row: the name of its constraint, and whether the row it asks for is there. -/
structure Reference where
  constraint : String
  holds : Bool

/-- The failure of adding a row that refers to one that is not there. -/
def danglingReference (table constraint : String) : StoreError :=
  (DatabaseFailure.refused .foreignKeyViolation
    (s!"insert or update on table \"{table}\" violates " ++
      s!"foreign key constraint \"{constraint}\"")).report

/-- The failure of a statement that names a table that is not found. -/
def missingTable (table : TableName) : StoreError :=
  (DatabaseFailure.refused .unknown s!"relation \"{table.text}\" does not exist").report

namespace Table

variable {α : Type}

def locate (t : Table α) : Except StoreError Unit :=
  match t.state with
  | .hidden => .error (missingTable t.name)
  | _ => .ok ()

def scan (t : Table α) : Except StoreError (List α) :=
  match t.state with
  | .failing message => .error (DatabaseFailure.refused .unknown message).report
  | _ => .ok t.rows

/-- A statement that reads the table, but no more rows than it asks for. -/
def selectUpTo (t : Table α) (limit : Option Nat) (arguments : List Argument) :
    Except StoreError (List α) := do
  t.locate
  Argument.accept arguments
  if limit = some 0 then return [] else t.scan

def select (t : Table α) (arguments : List Argument) : Except StoreError (List α) :=
  t.selectUpTo none arguments

/-- The name of the table in which the rows are kept. -/
def keptName (t : Table α) : String :=
  match t.state with
  | .failing _ => t.name.text ++ "_kept"
  | _ => t.name.text

/-- Adds a row: first all indexes must take it, then what it refers to must be there. -/
def add (t : Table α) (row : α) (reference : Option Reference) : Except StoreError (Table α) := do
  t.indexes.forM fun i => i.check t.rows row
  match reference with
  | some ⟨constraint, false⟩ => .error (danglingReference t.keptName constraint)
  | _ => return { t with rows := t.rows ++ [row] }

/-- A statement that adds a row. -/
def insert (t : Table α) (arguments : List Argument) (row : α) (reference : Option Reference) :
    Except StoreError (Table α) := do
  t.locate
  Argument.accept arguments
  t.add row reference

/-- Whether the table holds a row that a reference asks for. -/
def satisfies (wanted : α → Bool) (t : Table α) : Bool := t.rows.any wanted

/-- The table in another state. -/
def inState (state : TableState) (t : Table α) : Table α := { t with state := state }

/-- A table that is in order answers with its rows when the database takes the arguments. -/
theorem select_sound {t : Table α} {arguments : List Argument} (h : t.state = .sound)
    (k : ∀ a ∈ arguments, a.objection? = none) : t.select arguments = .ok t.rows := by
  rw [select, selectUpTo, locate, scan, h, Argument.accept_eq_ok.2 k]
  rfl

end Table

end HydroArchive
