import HydroArchive.Store.Database.Schema

/-!
# Changes of the database

Rows are added one at a time.  The database refuses a row that repeats the key of another one or
that is too long for an index, and a row that refers to one that is not there.

## Main definitions

* `Database.addOffice`, … — the changes.
* `Database.addReadings` — adds readings until one is refused.
-/

namespace HydroArchive

/-- Equality up to case, by the simple mapping. -/
def sameUpper (s t : String) : Bool := Text.simpleUpper s == Text.simpleUpper t

namespace Database

/-- A reference to an office. -/
def officeReference (d : Database) (constraint office : String) : Reference :=
  ⟨constraint, d.offices.satisfies fun o => o.id == office⟩

/-- Adds an office.  The office that it reports to must be there, or be itself. -/
def addOffice (d : Database) (o : Office) : Except StoreError Database := do
  let reference := o.reportsTo.map fun above =>
    let r := d.officeReference "offices_reports_to_fkey" above
    ⟨r.constraint, r.holds || above == o.id⟩
  return { d with offices := ← d.offices.insert [.ofRow o.texts] o reference }

def addSeries (d : Database) (s : Series) : Except StoreError Database := do
  return { d with
    series := ← d.series.insert [.ofRow s.texts] ⟨d.nextNumber, s⟩
      (d.officeReference "timeseries_office_id_fkey" s.office)
    nextNumber := d.nextNumber + 1 }

/-- Adds a conversion.  Its texts are handed over one by one. -/
def addConversion (d : Database) (c : StoredConversion) : Except StoreError Database := do
  return { d with conversions := ← d.conversions.insert (Argument.texts c.texts) c none }

def addLocation (d : Database) (l : Location) : Except StoreError Database := do
  return { d with
    locations := ← d.locations.insert [.ofRow l.texts] l
      (d.officeReference "locations_office_id_fkey" l.office) }

def addLocationCategory (d : Database) (c : Category) : Except StoreError Database := do
  return { d with
    locationCategories := ← d.locationCategories.insert [.ofRow c.texts] c
      (d.officeReference "location_categories_office_id_fkey" c.office) }

def addLocationGroup (d : Database) (g : LocationGroup) : Except StoreError Database := do
  let r := g.record
  return { d with
    locationGroups := ← d.locationGroups.insert [.ofRow g.texts] r
      (some ⟨"location_groups_office_id_category_id_fkey",
        d.locationCategories.satisfies (·.isExactly r.office r.category)⟩) }

def assign (d : Database) (a : StoredAssignment) : Except StoreError Database := do
  let office := a.assignment.office
  return { d with
    assignments := ← d.assignments.insert [.ofRow a.texts] a
      (some ⟨"location_group_assignments_office_id_category_id_group_id_fkey",
        d.locationGroups.satisfies fun g =>
          g.office == office && g.category == a.category && g.id == a.group⟩) }

def addSeriesCategory (d : Database) (c : Category) : Except StoreError Database := do
  return { d with
    seriesCategories := ← d.seriesCategories.insert [.ofRow c.texts] c
      (d.officeReference "timeseries_categories_office_id_fkey" c.office) }

def addSeriesGroup (d : Database) (g : SeriesGroup) : Except StoreError Database := do
  let r := g.record
  return { d with
    seriesGroups := ← d.seriesGroups.insert [.ofRow g.texts] r
      (some ⟨"timeseries_groups_office_id_category_id_fkey",
        d.seriesCategories.satisfies (·.isExactly r.office r.category)⟩) }

/-- Adds a reading of the series with an office and an identifier, which the same statement looks
up; case does not count, by the simple mapping.  The answer counts the readings that were added:
without such a series, none. -/
def addReading (d : Database) (office id : String) (r : Reading) :
    Except StoreError (Database × Nat) := do
  d.readings.locate
  d.series.locate
  Argument.accept [.text office, .text id, .time r.time]
  match (← d.series.scan).find? fun n =>
      sameUpper n.series.office office && sameUpper n.series.id id with
  | none => return (d, 0)
  | some n =>
    let kept : Reading := { r with time := r.time.kept }
    let readings ← d.readings.add ⟨n.number, kept⟩ none
    return ({ d with readings := readings }, 1)

/-- Adds readings of a series one after the other until one is refused; those before it stay.  The
answer counts the readings that were added. -/
def addReadings (d : Database) (office id : String) :
    List Reading → Database × Except StoreError Nat
  | [] => (d, .ok 0)
  | r :: rs =>
    match d.addReading office id r with
    | .ok (d, n) =>
      let (d, count) := addReadings d office id rs
      (d, count.map (n + ·))
    | .error e => (d, .error e)

/-- Removes the category with exactly this office and identifier; the answer says how many there
were. -/
def removeCategory (t : Table Category) (office id : String) :
    Except StoreError (Table Category × Nat) := do
  let rows ← t.select [.text office, .text id]
  let (removed, kept) := rows.partition fun c => c.isExactly office id
  return ({ t with rows := kept }, removed.length)

/-- Removes a category of location groups; the groups stay. -/
def removeLocationCategory (d : Database) (office id : String) :
    Except StoreError (Database × Nat) := do
  let (t, count) ← removeCategory d.locationCategories office id
  return ({ d with locationCategories := t }, count)

/-- Removes a category of series groups; the groups stay. -/
def removeSeriesCategory (d : Database) (office id : String) :
    Except StoreError (Database × Nat) := do
  let (t, count) ← removeCategory d.seriesCategories office id
  return ({ d with seriesCategories := t }, count)

end Database

end HydroArchive
