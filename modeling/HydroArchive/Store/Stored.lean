import HydroArchive.Entity
import HydroArchive.Units

/-!
# What stores keep besides the entities

Both kinds of store keep the assignments of locations together with the group that they belong to,
and conversions together with the units between which they convert.
-/

namespace HydroArchive

/-- An assignment and the group it belongs to; the office of the group is that of the assignment. -/
structure StoredAssignment where
  category : String
  group : String
  assignment : Assignment

def StoredAssignment.columns (upper : String → String) (a : StoredAssignment) : List String :=
  [upper a.category, upper a.group]

def StoredAssignment.row (a : StoredAssignment) (l : Location) : LocationRow :=
  ⟨l, some a.category, some a.group, a.assignment.aliasName⟩

/-- The rows of a location: one for each of its assignments, or a bare one. -/
def Location.rows (l : Location) : List StoredAssignment → List LocationRow
  | [] => [LocationRow.bare l]
  | assignments => assignments.map fun a => a.row l

/-- The rows of a group: one for each of its assignments, or one without. -/
def LocationGroup.rows (g : LocationGroup) : List Assignment → List GroupRow
  | [] => [⟨g, none⟩]
  | assignments => assignments.map fun a => ⟨g, some a⟩

structure StoredConversion where
  source : String
  target : String
  conversion : Conversion

def StoredConversion.isBetween (c : StoredConversion) (source target : String) : Bool :=
  c.source == source && c.target == target

def Reading.convert (c : Conversion) (r : Reading) : Reading :=
  { r with value := r.value.map c.apply }

end HydroArchive
