import HydroArchive.Entity
import HydroArchive.Page.Query
import HydroArchive.Store.Error

/-!
# What a store can be asked

The archive is kept in memory or in a relational database.  Either kind of store is asked the same
questions, and retrieval works from the answers alone.

Offices and identifiers are matched without regard to case.  An absent office stands for all
offices.
-/

namespace HydroArchive

/-- The answers of a store, each of which may fail. -/
structure Queries where
  /-- The first series with an identifier, in catalog order. -/
  series : (office : Option String) → (id : String) → Except StoreError (Option Series)
  /-- The number of readings of a series between two instants, both included. -/
  countReadings : Series → (first last : Instant) → Except StoreError Nat
  /-- The readings that a query admits, ascending in time, converted to a unit. -/
  readings : Series → (unit : String) → ValuesQuery → Except StoreError (List Reading)
  countSeries : (office : Option String) → Except StoreError Nat
  /-- The entries that a query admits, in catalog order. -/
  seriesCatalog : CatalogQuery → Except StoreError (List SeriesEntry)
  countLocations : (office : Option String) → Except StoreError Nat
  /-- The locations that a query admits, in catalog order, each joined with its assignments.  The
  limit counts locations, not rows. -/
  locationCatalog : CatalogQuery → Except StoreError (List LocationRow)
  /-- The rows of one location; none when there is no such location. -/
  location : (office : Option String) → (id : String) → Except StoreError (List LocationRow)
  offices : Except StoreError (List Office)
  office : (id : String) → Except StoreError (Option Office)
  locationCategories : (office : Option String) → Except StoreError (List Category)
  locationCategory : (office : Option String) → (id : String) → Except StoreError (Option Category)
  locationGroups : (office : Option String) → Except StoreError (List LocationGroup)
  /-- One group joined with its assignments; none when there is no such group. -/
  locationGroup : (office category group : String) → Except StoreError (List GroupRow)
  seriesCategories : (office : Option String) → Except StoreError (List Category)
  seriesCategory : (office : Option String) → (id : String) → Except StoreError (Option Category)
  seriesGroups : (office category group : Option String) → Except StoreError (List SeriesGroup)
  /-- Whether the store can be reached. -/
  health : Except StoreError Bool

end HydroArchive
