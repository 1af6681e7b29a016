import HydroArchive.Retrieval.Readings

/-!
# Pages of the catalogs

There is a catalog of the series and one of the locations, each in the order of its keys.  An entry
of the location catalog shows the location with its aliases and its elevation in the unit system of
the request.

## Main definitions

* `CatalogPage` — a page of either catalog.
* `retrieveSeriesCatalog`, `retrieveLocationCatalog` — the page that a request asks for.
* `retrieveLocation` — one entry of the location catalog.
-/

namespace HydroArchive

structure CatalogPage (ε : Type) where
  /-- The cursor that the page was asked for with. -/
  cursor : Option String
  /-- The cursor of the next page; absent on the last. -/
  next : Option String
  total : Option UInt64
  pageSize : Int32
  entries : List ε

def CatalogPage.isLast {ε : Type} (page : CatalogPage ε) : Bool := page.next.isNone

/-- A location as a catalog shows it. -/
structure LocationEntry where
  /-- The elevation is in `unit`. -/
  location : Location
  unit : String
  aliases : List LocationAlias

/-- A location and its aliases as shown in a unit system. -/
def locationEntry (units : UnitSystem) (a : Aggregate Location LocationAlias) : LocationEntry where
  location := { a.parent with elevation := a.parent.elevation.map units.elevation }
  unit := units.elevationUnit
  aliases := a.children

/-- What a request for a catalog means, before the store is asked. -/
def planCatalog (request : CatalogRequest) : Except RetrievalError (PagePlan CatalogQuery) := do
  let token ← requestedToken request.cursor .catalog
  (CatalogQuery.plan token (Text.nonBlank? request.office) request.pageSize).mapError
    .malformedCursor

/-- A page of a catalog whose rows have keys. -/
def retrieveCatalog {ρ ε : Type} (count : Option String → Except StoreError Nat)
    (rows : CatalogQuery → Except StoreError (List ρ)) (key : ρ → CatalogKey) (entry : ρ → ε)
    (request : CatalogRequest) : Except RetrievalError (CatalogPage ε) := do
  let plan ← planCatalog request
  let total ← listingTotal plan (count plan.query.office)
  let all ← (rows plan.query).mapError .store
  let (kept, hasMore) := splitPage all plan.pageSize
  let next := nextToken .catalog (kept.getLast?.map fun r => (key r).resumeKey) hasMore
    plan.pageSize total
  return {
    cursor := Text.nonBlank? request.cursor
    next := next.map PageToken.encode
    total := total
    pageSize := plan.pageSize
    entries := kept.map entry }

/-- The page of the series catalog that a request asks for. -/
def retrieveSeriesCatalog (store : Queries) (request : CatalogRequest) :
    Except RetrievalError (CatalogPage SeriesEntry) :=
  retrieveCatalog store.countSeries store.seriesCatalog SeriesEntry.key id request

/-- The page of the location catalog that a request asks for. -/
def retrieveLocationCatalog (store : Queries) (request : CatalogRequest) :
    Except RetrievalError (CatalogPage LocationEntry) :=
  retrieveCatalog store.countLocations
    (fun q => (store.locationCatalog q).map (fold LocationRow.join))
    (fun a => a.parent.key) (locationEntry request.unitSystem) request

def retrieveLocation (store : Queries) (office : Option String) (id : String) (units : UnitSystem) :
    Except RetrievalError LocationEntry := do
  let rows ← (store.location (Text.nonBlank? office) id).mapError .store
  match fold LocationRow.join rows with
  | first :: _ => return locationEntry units first
  | [] => throw (.notFound .location id)

end HydroArchive
