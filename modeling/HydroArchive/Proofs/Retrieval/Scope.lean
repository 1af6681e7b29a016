import HydroArchive.Proofs.Retrieval.LocationWalk
import HydroArchive.Proofs.Retrieval.SeriesWalk
import HydroArchive.Proofs.Store.History
import HydroArchive.Retrieval.Reference

/-!
# Listings of a part of the archive

A listing may be asked for with filters, for one office or for groups of some name only.  The store
picks the rows first and sorts them then, and the rows of locations are folded after that.  The
answer is the same as if the whole listing was made first and the rows that fail a filter were left
out of it at last.  For this, sorting has to keep rows with equal columns in their order, and
folding must not join rows of two offices.

## Main definitions

* `inScope` — whether a text passes a filter as the caller gives it.
* `ScopedList`, `ScopedPage` — that an answer is the whole one less the rows that fail a filter.

## Main statements

* `retrieveCatalog_unbounded` — the page of a catalog that has all entries.
* `MemoryStore.scopedPage_locations` — the catalog of locations, whose rows are folded.
* `MemoryStore.listings_scoped` — all listings that can be filtered.
-/

namespace HydroArchive

/-- Whether a text passes a filter as the caller gives it.  Blanks around the filter and the case
of letters do not count, and a filter of blanks lets everything pass. -/
def inScope (filter : Option String) (text : String) : Bool :=
  match filter with
  | some wanted => Text.trim wanted == "" || Text.sameFold (Text.trim wanted) text
  | none => true

theorem inScope_of_blank {blank : String} (h : Text.trim blank = "") (text : String) :
    inScope (some blank) text = true := by
  simp [inScope, h]

@[simp] theorem officePasses_nonBlank? (filter : Option String) (office : String) :
    officePasses (Text.nonBlank? filter) office = inScope filter office := by
  cases filter with
  | none => rfl
  | some wanted =>
    by_cases blank : Text.trim wanted = "" <;>
      simp [officePasses, inScope, Text.nonBlank?, Option.filter, blank]

@[simp] theorem idPasses_nonBlank? (filter : Option String) (id : String) :
    MemoryStore.idPasses (Text.nonBlank? filter) id = inScope filter id := by
  rw [← officePasses_nonBlank?]
  cases Text.nonBlank? filter with
  | none => rfl
  | some wanted => exact Text.sameFold_comm id wanted

/-- The whole listing is answered with, and the filtered one is what passes of it, in its order. -/
def ScopedList {α : Type} (whole filtered : Except RetrievalError (List α)) (passes : α → Bool) :
    Prop :=
  ∃ rows, whole = .ok rows ∧ filtered = .ok (rows.filter passes)

/-- The page with all entries is answered with, and the page of a part has what passes of these, in
their order.  Apart from the entries, the pages differ in their totals only. -/
def ScopedPage {ε : Type} (whole part : Except RetrievalError (CatalogPage ε)) (passes : ε → Bool)
    (total : Nat) : Prop :=
  ∃ page, whole = .ok page ∧
    part = .ok { page with
      total := some (UInt64.ofNat total)
      entries := page.entries.filter passes }

/-! ## Catalogs -/

/-- Without a cursor and without a positive page size, there is one page, with all rows. -/
theorem retrieveCatalog_unbounded {ρ ε : Type} {count : Option String → Except StoreError Nat}
    {rows : CatalogQuery → Except StoreError (List ρ)} {n : Nat} {all : List ρ}
    (key : ρ → CatalogKey) (entry : ρ → ε) (request : CatalogRequest)
    (blank : Text.nonBlank? request.cursor = none) (unbounded : request.pageSize ≤ 0)
    (counted : count (Text.nonBlank? request.office) = .ok n)
    (listed : rows ⟨Text.nonBlank? request.office, .start, none⟩ = .ok all) :
    retrieveCatalog count rows key entry request = .ok {
      cursor := none
      next := none
      total := some (UInt64.ofNat n)
      pageSize := request.pageSize
      entries := all.map entry } := by
  have token : requestedToken request.cursor .catalog = .ok none := by
    rw [requestedToken, blank]
  have planned := planCatalog_of_accepted token rfl
  have notPos : ¬ 0 < request.pageSize := Int32.not_lt.2 unbounded
  have limit : rowLimit request.pageSize = none := if_neg notPos
  simp only [effectivePageSize, limit] at planned
  simp only [retrieveCatalog, planned, listingTotal, counted, listed, splitPage, notPos, blank,
    Resume.isStart, bind, Except.bind, Except.map, Except.mapError, nextToken]
  simp [pure, Except.pure]

/-- If the listing of an office is that of all offices less the others, so is the page of it. -/
theorem scopedPage_of_listing {ρ ε : Type} {count : Option String → Except StoreError Nat}
    (rows : CatalogQuery → Except StoreError (List ρ)) {key : ρ → CatalogKey} (entry : ρ → ε)
    (office : ε → String) {size : Option String → Nat} {listing : Option String → List ρ}
    (counted : ∀ owner, count owner = .ok (size owner))
    (listed : ∀ owner, rows ⟨owner, .start, none⟩ = .ok (listing owner))
    (restricted : ∀ owner, listing owner
      = (listing none).filter fun r => officePasses owner (key r).office)
    (shown : ∀ r, office (entry r) = (key r).office) {request : CatalogRequest}
    (blank : Text.nonBlank? request.cursor = none) (unbounded : request.pageSize ≤ 0) :
    ScopedPage (retrieveCatalog count rows key entry { request with office := none })
      (retrieveCatalog count rows key entry request)
      (fun e => inScope request.office (office e)) (size (Text.nonBlank? request.office)) := by
  refine ⟨_, retrieveCatalog_unbounded key entry { request with office := none } blank unbounded
    (counted none) (listed none), ?_⟩
  rw [retrieveCatalog_unbounded key entry request blank unbounded (counted _) (listed _),
    restricted]
  simp only [officePasses_nonBlank?, List.filter_map, Function.comp_def, shown]

namespace MemoryStore

variable {m : MemoryStore}

theorem seriesListing_eq_filter (m : MemoryStore) (office : Option String) :
    m.seriesListing office
      = (m.seriesListing none).filter fun e => officePasses office e.key.office := by
  have entries : m.seriesEntries office
      = (m.seriesEntries none).filter fun e => officePasses office e.key.office := by
    simp only [seriesEntries, List.filter_map, List.filter_filter, officePasses, Bool.and_true]
    rfl
  rw [seriesListing, seriesListing, entries]
  exact (Text.filter_sortByColumns _ _ _).symm

/-- The locations with their aliases in catalog order, where entries with the same key are one. -/
def foldedListing (m : MemoryStore) (office : Option String) :
    List (Aggregate Location LocationAlias) :=
  fold LocationRow.join
    ((CatalogKey.sortRows Text.upper Location.key (m.locationsOf office)).flatMap m.rowsOf)

/-- Rows are folded by keys that tell offices apart, so other offices can be left out at last. -/
theorem foldedListing_eq_filter (m : MemoryStore) (office : Option String) :
    m.foldedListing office
      = (m.foldedListing none).filter fun a => officePasses office a.parent.key.office := by
  have locations : m.locationsOf office
      = (m.locationsOf none).filter fun l => officePasses office l.office := by
    simp [locationsOf, officePasses]
  have sorted : CatalogKey.sortRows Text.upper Location.key (m.locationsOf office)
      = (CatalogKey.sortRows Text.upper Location.key (m.locationsOf none)).filter
          fun l => officePasses office l.office := by
    rw [locations]
    exact (Text.filter_sortByColumns _ _ _).symm
  have rows (ls : List Location) :
      (ls.filter fun l => officePasses office l.office).flatMap m.rowsOf
        = (ls.flatMap m.rowsOf).filter fun r => officePasses office r.location.office := by
    induction ls with
    | nil => rfl
    | cons l ls ih =>
      -- the rows of a location pass or fail together
      have own : (m.rowsOf l).filter (fun r => officePasses office r.location.office)
          = if officePasses office l.office then m.rowsOf l else [] := by
        split
        case isTrue passes =>
          exact List.filter_eq_self.2 fun r hr => by rw [mem_rowsOf hr, passes]
        case isFalse fails =>
          exact List.filter_eq_nil_iff.2 fun r hr => by rwa [mem_rowsOf hr]
      rw [List.flatMap_cons, List.filter_append, own, ← ih, List.filter_cons]
      split <;> simp
  rw [foldedListing, foldedListing, sorted, rows]
  exact (filter_fold LocationRow.join (fun l => officePasses office l.office)
    (fun k => officePasses office k.office) _ fun r _ => rfl).symm

theorem scopedPage_series (healthy : m.healthy = true) {request : CatalogRequest}
    (blank : Text.nonBlank? request.cursor = none) (unbounded : request.pageSize ≤ 0) :
    ScopedPage (retrieveSeriesCatalog m.queries { request with office := none })
      (retrieveSeriesCatalog m.queries request) (fun e => inScope request.office e.office)
      (m.registered.filter fun s => inScope request.office s.office).length := by
  have counted (owner : Option String) : m.queries.countSeries owner
      = .ok (m.registered.filter fun s => officePasses owner s.office).length := by
    rw [(serves_series healthy).count, length_seriesListing, seriesEntries, List.length_map]
  have listed (owner : Option String) : m.queries.seriesCatalog ⟨owner, .start, none⟩
      = .ok (m.seriesListing owner) := by
    rw [(serves_series healthy).rows]
    simp only [Resume.rest_start]
    rfl
  have page := scopedPage_of_listing m.queries.seriesCatalog id SeriesEntry.office counted listed
    m.seriesListing_eq_filter (fun _ => rfl) blank unbounded
  simp only [officePasses_nonBlank?] at page
  exact page

theorem scopedPage_locations (healthy : m.healthy = true) {request : CatalogRequest}
    (blank : Text.nonBlank? request.cursor = none) (unbounded : request.pageSize ≤ 0) :
    ScopedPage (retrieveLocationCatalog m.queries { request with office := none })
      (retrieveLocationCatalog m.queries request)
      (fun e => inScope request.office e.location.office)
      (m.locations.filter fun l => inScope request.office l.office).length := by
  have counted (owner : Option String) : m.queries.countLocations owner
      = .ok (m.locationsOf owner).length := by
    simp only [queries, whenHealthy_of_healthy healthy, locationsOf, List.countP_eq_length_filter]
  have listed (owner : Option String) :
      (m.queries.locationCatalog ⟨owner, .start, none⟩).map (fold LocationRow.join)
        = .ok (m.foldedListing owner) := by
    simp only [queries, whenHealthy_of_healthy healthy, locationsAdmitted_eq, Resume.rest_start]
    rfl
  have page := scopedPage_of_listing
    (fun q => (m.queries.locationCatalog q).map (fold LocationRow.join))
    (locationEntry request.unitSystem) (fun e => e.location.office) counted listed
    m.foldedListing_eq_filter (fun _ => rfl) blank unbounded
  simp only [locationsOf, officePasses_nonBlank?] at page
  exact page

/-! ## Listings without pages -/

/-- Categories of an office are those of all offices less the others. -/
theorem categoriesOf_nonBlank? (office : Option String) (categories : List Category) :
    categoriesOf (Text.nonBlank? office) categories
      = (categoriesOf none categories).filter fun c => inScope office c.office := by
  simp only [categoriesOf, Text.filter_sortByColumns, List.filter_filter, officePasses_nonBlank?,
    officePasses_none, Bool.and_true]

theorem locationGroupsOf_nonBlank? (m : MemoryStore) (office : Option String) :
    m.locationGroupsOf (Text.nonBlank? office)
      = (m.locationGroupsOf none).filter fun g => inScope office g.office := by
  simp only [locationGroupsOf, Text.filter_sortByColumns, List.filter_filter,
    officePasses_nonBlank?, officePasses_none, Bool.and_true]

theorem seriesGroupsOf_nonBlank? (m : MemoryStore) (office category group : Option String) :
    m.seriesGroupsOf (Text.nonBlank? office) (Text.nonBlank? category) (Text.nonBlank? group)
      = (m.seriesGroupsOf none none none).filter fun g =>
          inScope office g.office && inScope category g.category.id && inScope group g.id := by
  simp only [seriesGroupsOf, Text.filter_sortByColumns, List.filter_filter,
    officePasses_nonBlank?, idPasses_nonBlank?, officePasses_none, idPasses_none, Bool.and_true]

/-- A listing of a healthy store that is asked for with filters is the whole listing less the rows
that fail a filter, in unchanged order.  Blank filters leave nothing out.  This holds of the
listings of groups and categories, and of both catalogs where they are asked for as a whole; these
come with the number of rows that are stored for the office. -/
theorem listings_scoped (healthy : m.healthy = true) :
    (∀ office category group,
      ScopedList (listSeriesGroups m.queries none none none)
        (listSeriesGroups m.queries office category group) fun g =>
          inScope office g.office && inScope category g.category.id && inScope group g.id) ∧
      (∀ office, ScopedList (listLocationGroups m.queries none)
        (listLocationGroups m.queries office) fun g => inScope office g.group.office) ∧
      (∀ office, ScopedList (listLocationCategories m.queries none)
        (listLocationCategories m.queries office) fun c => inScope office c.office) ∧
      (∀ office, ScopedList (listSeriesCategories m.queries none)
        (listSeriesCategories m.queries office) fun c => inScope office c.office) ∧
      (∀ request : CatalogRequest, Text.nonBlank? request.cursor = none → request.pageSize ≤ 0 →
        ScopedPage (retrieveSeriesCatalog m.queries { request with office := none })
            (retrieveSeriesCatalog m.queries request) (fun e => inScope request.office e.office)
            (m.registered.filter fun s => inScope request.office s.office).length ∧
          ScopedPage (retrieveLocationCatalog m.queries { request with office := none })
            (retrieveLocationCatalog m.queries request)
            (fun e => inScope request.office e.location.office)
            (m.locations.filter fun l => inScope request.office l.office).length) ∧
      ∀ blank, Text.trim blank = "" → ∀ text, inScope (some blank) text = true := by
  have answered {α : Type} (question : String) (a : α) :
      (m.whenHealthy question (.ok a)).mapError RetrievalError.store = .ok a := by
    rw [whenHealthy_of_healthy healthy]
    rfl
  have groups (office : Option String) : listLocationGroups m.queries office
      = .ok ((m.locationGroupsOf (Text.nonBlank? office)).map fun g => ⟨g, []⟩) := by
    simp only [listLocationGroups, queries, whenHealthy_of_healthy healthy]
    rfl
  refine ⟨fun office category group => ?_, fun office => ?_, fun office => ?_, fun office => ?_,
    fun request blank unbounded => ?_, fun blank none => inScope_of_blank none⟩
  · exact ⟨_, answered _ _, (answered _ _).trans
      (congrArg _ (m.seriesGroupsOf_nonBlank? office category group))⟩
  · refine ⟨_, groups none, ?_⟩
    rw [groups, locationGroupsOf_nonBlank?, List.filter_map]
    rfl
  · exact ⟨_, answered _ _, (answered _ _).trans (congrArg _ (categoriesOf_nonBlank? office _))⟩
  · exact ⟨_, answered _ _, (answered _ _).trans (congrArg _ (categoriesOf_nonBlank? office _))⟩
  · exact ⟨scopedPage_series healthy blank unbounded, scopedPage_locations healthy blank unbounded⟩

/-- Two series of one office that differ in case only, and two locations of one key; between them
stands one of another office each. -/
def sampleOffices : MemoryStore where
  series := [⟨sampleSeries "KEYS", .empty⟩, ⟨⟨"LRL", "Keys", "m", "m", "ft", 0⟩, .empty⟩,
    ⟨sampleSeries "keys", .empty⟩]
  locations := [sampleLocation "KEYS", { sampleLocation "KEYS" with office := "LRL" },
    sampleLocation "KEYS"]

/-- An office in small letters with blanks around it, and a blank cursor. -/
def sampleScope : CatalogRequest := ⟨some " swt ", some " ", 0, .si⟩

/-- Both catalogs of the office; the locations of one key are one entry and are counted twice. -/
theorem listings_scoped_sample :
    sampleOffices.healthy = true ∧ Text.nonBlank? sampleScope.cursor = none ∧
      sampleScope.pageSize ≤ 0 ∧
      ScopedPage (retrieveSeriesCatalog sampleOffices.queries { sampleScope with office := none })
        (retrieveSeriesCatalog sampleOffices.queries sampleScope)
        (fun e => inScope (some " swt ") e.office) 2 ∧
      ScopedPage (retrieveLocationCatalog sampleOffices.queries { sampleScope with office := none })
        (retrieveLocationCatalog sampleOffices.queries sampleScope)
        (fun e => inScope (some " swt ") e.location.office) 2 := by
  have blank : Text.nonBlank? sampleScope.cursor = none := rfl
  have unbounded : sampleScope.pageSize ≤ 0 := Int32.le_refl 0
  obtain ⟨-, -, -, -, catalogs, -⟩ := listings_scoped (m := sampleOffices) rfl
  exact ⟨rfl, blank, unbounded, catalogs sampleScope blank unbounded⟩

end MemoryStore

end HydroArchive
