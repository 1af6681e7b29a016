import HydroArchive.Proofs.Page.Fold
import HydroArchive.Proofs.Retrieval.CatalogWalk

/-!
# Walks through the location catalog

The store answers with joined rows, one for each assignment of a location, while limits, totals and
the question whether there is another page are about locations.  Folding the rows gives back exactly
the locations that the limit let through, so a walk hands out the same entries as one request for
all of them.

## Main definitions

* `MemoryStore.LocationListable` — the stores whose locations a catalog can hand out page by page.
* `MemoryStore.locationWalk` — the answers of a walk.

## Main statements

* `fold_rows` — the rows of locations fold into these locations with their aliases.
* `serves_locations` — the answers of a store describe its locations.
* `locationWalk_eq_whole` — a walk hands out what one request for all entries does.
* `sortedBy_aliases` — the aliases of an entry.
-/

namespace HydroArchive

/-- The alias that an assignment gives, named after its category and group. -/
def StoredAssignment.alias? (a : StoredAssignment) : Option LocationAlias :=
  a.assignment.aliasName.map fun value => ⟨s!"{a.category}-{a.group}", value⟩

/-- The locations that a store answers with, each with its aliases. -/
def Queries.foldedLocations (store : Queries) (q : CatalogQuery) :
    Except StoreError (List (Aggregate Location LocationAlias)) :=
  (store.locationCatalog q).map (fold LocationRow.join)

namespace MemoryStore

/-- A location with the aliases that its assignments give. -/
def withAliases (m : MemoryStore) (l : Location) : Aggregate Location LocationAlias where
  parent := l
  children := (m.assignmentsOf l).filterMap StoredAssignment.alias?

/-- The locations of an office, or of all. -/
def locationsOf (m : MemoryStore) (office : Option String) : List Location :=
  m.locations.filter fun l => officePasses office l.office

/-- The locations with their aliases in catalog order. -/
def locationListing (m : MemoryStore) (office : Option String) :
    List (Aggregate Location LocationAlias) :=
  (CatalogKey.sortRows Text.upper Location.key (m.locationsOf office)).map m.withAliases

/-- The locations have different keys, and cursors can carry all of them. -/
structure LocationListable (m : MemoryStore) : Prop where
  distinct : (m.locations.map Location.key).Nodup
  resumable : ∀ l ∈ m.locations, l.key.Resumable

/-- The answers of a walk through the location catalog.  The first request names the page size of
`request`, and each later one any other. -/
def locationWalk (m : MemoryStore) (request : CatalogRequest) (later : List Int32) :
    List (Except RetrievalError (CatalogPage LocationEntry)) :=
  m.walk (fun store pageSize cursor =>
      retrieveLocationCatalog store { request with cursor := cursor, pageSize := pageSize })
    CatalogPage.next request.pageSize (later.map fun pageSize => ⟨[], pageSize⟩)

/-! ## The listing -/

variable {m : MemoryStore}

@[simp] theorem alias?_row (a : StoredAssignment) (l : Location) : (a.row l).alias? = a.alias? := by
  cases h : a.assignment.aliasName <;>
    simp [StoredAssignment.row, LocationRow.alias?, StoredAssignment.alias?, h]

theorem mem_rowsOf {l : Location} {r : LocationRow} (h : r ∈ m.rowsOf l) : r.location = l := by
  rw [rowsOf] at h
  cases hr : m.assignmentsOf l with
  | nil =>
    rw [hr] at h
    rw [List.mem_singleton.1 h]
    rfl
  | cons a as =>
    rw [hr] at h
    obtain ⟨b, -, rfl⟩ := List.mem_map.1 h
    rfl

theorem rowsOf_ne_nil (m : MemoryStore) (l : Location) : m.rowsOf l ≠ [] := by
  rw [rowsOf]
  cases m.assignmentsOf l <;> exact List.cons_ne_nil _ _

@[simp] theorem filterMap_rowsOf (m : MemoryStore) (l : Location) :
    (m.rowsOf l).filterMap LocationRow.alias? = (m.withAliases l).children := by
  rw [rowsOf, withAliases]
  cases m.assignmentsOf l with
  | nil => rfl
  | cons a as =>
    simp only [Location.rows, List.filterMap_map]
    exact List.filterMap_congr fun b _ => alias?_row b l

/-- The rows of locations with different keys fold into these locations with their aliases, however
many rows each of them has. -/
theorem fold_rows (m : MemoryStore) {ls : List Location}
    (distinct : (ls.map Location.key).Nodup) :
    fold LocationRow.join (ls.flatMap m.rowsOf) = ls.map m.withAliases := by
  have folded := fold_flatMap LocationRow.join m.rowsOf Location.key id ls
    (fun l _ => m.rowsOf_ne_nil l) (fun l _ r hr => congrArg Location.key (mem_rowsOf hr))
    (fun l _ r hr => mem_rowsOf hr) distinct
  rw [folded]
  exact List.map_congr_left fun l _ => congrArg (Aggregate.mk l) (m.filterMap_rowsOf l)

@[simp] theorem length_locationListing (m : MemoryStore) (office : Option String) :
    (m.locationListing office).length = (m.locationsOf office).length := by
  rw [locationListing, List.length_map, (CatalogKey.sortRows_perm _ _).length_eq]

theorem mem_locationListing {office : Option String} {a : Aggregate Location LocationAlias} :
    a ∈ m.locationListing office ↔ ∃ l ∈ m.locationsOf office, m.withAliases l = a := by
  simp only [locationListing, List.mem_map, (CatalogKey.sortRows_perm _ _).mem_iff]

/-- The locations that a query admits, before they are joined. -/
theorem locationsAdmitted_eq (m : MemoryStore) (q : CatalogQuery) :
    m.locationsAdmitted q = takeLimit q.limit (q.after.rest CatalogKey.order Location.key
      (CatalogKey.sortRows Text.upper Location.key (m.locationsOf q.office))) := by
  have admitted : (m.locations.filter fun l => q.admits l.key)
      = (m.locationsOf q.office).filter fun l => q.after.admits CatalogKey.order l.key := by
    rw [locationsOf, List.filter_filter]
    refine List.filter_congr fun l _ => ?_
    simp only [CatalogQuery.admits, CatalogQuery.matchesOffice, Bool.and_comm]
    cases q.after <;> rfl
  rw [locationsAdmitted, admitted, CatalogKey.sortRows, ← Text.filter_sortByColumns]
  rfl

/-- The folded answers of a healthy store describe its locations in catalog order. -/
theorem serves_locations (healthy : m.healthy = true) (listable : m.LocationListable) :
    Serves m.queries.countLocations m.queries.foldedLocations (fun a => a.parent.key)
      m.locationListing where
  count office := by
    simp only [queries, whenHealthy_of_healthy healthy, length_locationListing, locationsOf,
      List.countP_eq_length_filter]
  rows q := by
    have distinct : ((m.locationsAdmitted q).map Location.key).Nodup := by
      have sorted : ((CatalogKey.sortRows Text.upper Location.key (m.locationsOf q.office)).map
          Location.key).Nodup :=
        ((CatalogKey.sortRows_perm _ _).map _).nodup_iff.2
          (listable.distinct.sublist (List.filter_sublist.map _))
      rw [locationsAdmitted_eq]
      exact sorted.sublist (((takeLimit_sublist _ _).trans List.filter_sublist).map _)
    simp only [Queries.foldedLocations, queries, whenHealthy_of_healthy healthy, Except.map,
      m.fold_rows distinct]
    rw [locationsAdmitted_eq, ← takeLimit_map, Resume.rest, Resume.rest, locationListing,
      List.filter_map]
    rfl

theorem LocationListable.ascending (h : m.LocationListable) (office : Option String) :
    Ascending CatalogKey.order (fun a => a.parent.key) (m.locationListing office) :=
  List.pairwise_map.2 <|
    CatalogKey.ascending_sortRows (h.distinct.sublist (List.filter_sublist.map _))

theorem LocationListable.resumable_entry (h : m.LocationListable) {office : Option String} :
    ∀ a ∈ m.locationListing office, a.parent.key.Resumable := by
  intro a ha
  obtain ⟨l, hl, rfl⟩ := mem_locationListing.1 ha
  exact h.resumable l (List.mem_filter.1 hl).1

/-- The values that a partial function gives are those of the arguments where it gives one. -/
theorem forall₂_filterMap {α β : Type} (f : α → Option β) (xs : List α) :
    List.Forall₂ (fun a b => f a = some b) (xs.filter fun a => (f a).isSome) (xs.filterMap f) := by
  induction xs with
  | nil => exact .nil
  | cons x xs ih =>
    cases h : f x with
    | none => simpa [h] using ih
    | some b => simpa [h] using ih

/-- The aliases of a location are those of the assignments that name it, in any case of letters, and
give an alias.  They are ordered by category and group, and where these agree as the assignments
were made. -/
theorem sortedBy_aliases (m : MemoryStore) (l : Location) :
    ∃ chosen, Text.SortedBy (StoredAssignment.columns Text.upper)
        (m.assignments.filter fun a => a.assignment.aliasName.isSome
          && l.isNamed a.assignment.office a.assignment.location) chosen ∧
      List.Forall₂ (fun a x => x.name = s!"{a.category}-{a.group}" ∧
        a.assignment.aliasName = some x.value) chosen (m.withAliases l).children := by
  have sorted := (Text.sortedBy_sortByColumns (StoredAssignment.columns Text.upper)
    (m.assignments.filter fun a => l.isNamed a.assignment.office a.assignment.location)).filter
      fun a => a.alias?.isSome
  simp only [List.filter_filter, StoredAssignment.alias?, Option.isSome_map] at sorted
  refine ⟨_, sorted, ?_⟩
  have given := forall₂_filterMap StoredAssignment.alias? (m.assignmentsOf l)
  simp only [StoredAssignment.alias?, Option.isSome_map] at given
  refine given.imp fun a x h => ?_
  obtain ⟨value, hv, rfl⟩ := Option.map_eq_some_iff.1 h
  exact ⟨rfl, hv⟩

/-! ## The walk -/

section Walk

variable {request : CatalogRequest} {later : List Int32}

theorem eq_of_met_sizes (later : List Int32) :
    ∀ s ∈ m :: m.met (later.map fun pageSize => ⟨[], pageSize⟩), s = m :=
  eq_of_met (List.forall_mem_map.2 fun _ _ => rfl)

theorem serves_met_locations (healthy : m.healthy = true) (listable : m.LocationListable)
    (later : List Int32) : ∀ s ∈ m :: m.met (later.map fun pageSize => ⟨[], pageSize⟩),
      Serves s.queries.countLocations s.queries.foldedLocations (fun a => a.parent.key)
        s.locationListing :=
  fun s hs => eq_of_met_sizes later s hs ▸ serves_locations healthy listable

theorem resumable_met (listable : m.LocationListable) (later : List Int32)
    {office : Option String} : ∀ s ∈ m :: m.met (later.map fun pageSize => ⟨[], pageSize⟩),
      ∀ a ∈ s.locationListing office, a.parent.key.Resumable := by
  intro s hs
  obtain rfl := eq_of_met_sizes later s hs
  exact listable.resumable_entry

/-- No cursor of a walk is too long if the offices and identifiers of the locations are not. -/
theorem locationWalk_short (healthy : m.healthy = true) (listable : m.LocationListable)
    (pos : 0 < request.pageSize)
    (small : ∀ l ∈ m.locations, l.key.resumeKey.utf8ByteSize ≤ 1000) :
    ∀ page, .ok page ∈ m.locationWalk request later → ∀ c, page.next = some c →
      c.utf8ByteSize ≤ maxCursorLength := by
  refine catalogWalk_short (serves_met_locations healthy listable later) pos
    (resumable_met listable later) fun s hs a ha => ?_
  obtain rfl := eq_of_met_sizes later s hs
  obtain ⟨l, hl, rfl⟩ := mem_locationListing.1 ha
  exact small l (List.mem_filter.1 hl).1

/-- A walk through the location catalog takes as many pages as the locations need, and hands out the
entries of one request for all of them, aliases included.  Every page has the number of locations as
its total. -/
theorem locationWalk_eq_whole {unbounded : Int32} (healthy : m.healthy = true)
    (listable : m.LocationListable) (pos : 0 < request.pageSize) (notPos : unbounded ≤ 0)
    (short : ∀ page, .ok page ∈ m.locationWalk request later → ∀ c, page.next = some c →
      c.utf8ByteSize ≤ maxCursorLength) :
    let size := request.pageSize.toInt.toNat
    let locations := m.locationsOf (Text.nonBlank? request.office)
    ∃ pages whole, m.locationWalk request later = pages.map .ok ∧
      retrieveLocationCatalog m.queries { request with cursor := none, pageSize := unbounded }
        = .ok whole ∧
      pages.length = min (later.length + 1) (pageCount size locations.length) ∧
      (pageCount size locations.length ≤ later.length + 1 →
        Finished CatalogPage.next pages ∧
          pages.flatMap CatalogPage.entries = whole.entries) ∧
      (∀ page ∈ pages, page.total = some (UInt64.ofNat locations.length)) ∧
      (whole.entries.map fun e => e.location.key).Perm (locations.map Location.key) ∧
      ∀ e ∈ whole.entries, ∃ chosen, Text.SortedBy (StoredAssignment.columns Text.upper)
          (m.assignments.filter fun a => a.assignment.aliasName.isSome
            && e.location.isNamed a.assignment.office a.assignment.location) chosen ∧
        List.Forall₂ (fun a x => x.name = s!"{a.category}-{a.group}" ∧
          a.assignment.aliasName = some x.value) chosen e.aliases := by
  generalize hoffice : Text.nonBlank? request.office = office
  intro size locations
  obtain ⟨pages, answers, shown⟩ := catalogWalk_shows (locationEntry request.unitSystem)
    (serves_met_locations healthy listable later) pos
    (resumable_met listable later) rfl
    fun page answer _ _ _ _ next => short page answer _ next
  obtain ⟨whole, answer, -, entries, -⟩ := retrieveCatalog_whole
    (serves_locations healthy listable) (locationEntry request.unitSystem)
    { request with cursor := none, pageSize := unbounded } (Int32.not_lt.2 notPos) rfl
  simp only [hoffice] at shown entries
  have same : ∀ rows ∈ (m :: m.met (later.map fun pageSize => ⟨[], pageSize⟩)).map
      (fun s => s.locationListing office), rows = m.locationListing office :=
    List.forall_mem_map.2 fun s hs => by rw [eq_of_met_sizes later s hs]
  obtain ⟨length, enough⟩ := unchanged_of_shows (toNat_pos pos) (listable.ascending office) same
    shown
  rw [length_locationListing, List.length_map, List.length_cons, length_met, List.length_map]
    at length enough
  refine ⟨pages, whole, answers, answer, length, fun long => ?_, fun page hp => ?_, ?_, ?_⟩
  · exact ⟨(enough long).1, (enough long).2.trans entries.symm⟩
  · rw [length_locationListing] at shown
    exact total_of_shows shown page hp
  · rw [entries, locationListing, List.map_map, List.map_map]
    exact (CatalogKey.sortRows_perm _ _).map _
  · intro e he
    rw [entries] at he
    obtain ⟨a, ha, rfl⟩ := List.mem_map.1 he
    obtain ⟨l, hl, rfl⟩ := mem_locationListing.1 ha
    exact m.sortedBy_aliases l

end Walk

def sampleLocation (id : String) : Location where
  office := "SWT"
  id := id
  nearestCity := none
  publicName := none
  longName := none
  description := none
  kind := some "SITE"
  timeZone := none
  latitude := none
  longitude := none
  elevation := none
  state := some "OK"
  county := none
  nation := none
  active := true

/-- Two locations, of which one has two aliases and an assignment without one. -/
def sampleMap : MemoryStore where
  locations := [sampleLocation "KEYS", sampleLocation "brok"]
  assignments := [⟨"Basin", "Arkansas", ⟨"keys", "swt", some "Keystone", none, none⟩⟩,
    ⟨"Agency", "NWS", ⟨"Keys", "SWT", none, none, none⟩⟩,
    ⟨"agency", "usgs", ⟨"KEYS", "SWT", some "07164500", some 1, none⟩⟩]

/-- A walk in two pages. -/
theorem locationWalk_eq_whole_sample :
    ∃ pages whole, sampleMap.locationWalk ⟨some "swt", none, 1, .en⟩ [25] = pages.map .ok ∧
      retrieveLocationCatalog sampleMap.queries ⟨some "swt", none, 0, .en⟩ = .ok whole ∧
      Finished CatalogPage.next pages ∧
      pages.flatMap CatalogPage.entries = whole.entries := by
  have listable : sampleMap.LocationListable := ⟨by decide, by decide⟩
  have short : ∀ page, .ok page ∈ sampleMap.locationWalk ⟨some "swt", none, 1, .en⟩ [25] →
      ∀ c, page.next = some c → c.utf8ByteSize ≤ maxCursorLength :=
    locationWalk_short rfl listable (by decide) (by decide)
  obtain ⟨pages, whole, answers, answer, -, enough, -⟩ :=
    locationWalk_eq_whole rfl listable (by decide) (Int32.le_refl 0) short
  obtain ⟨finished, same⟩ := enough (by decide)
  exact ⟨pages, whole, answers, answer, finished, same⟩

end MemoryStore

end HydroArchive
