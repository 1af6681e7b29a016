import HydroArchive.Proofs.Retrieval.CatalogWalk

/-!
# Walks through the series catalog

The catalog of series is handed out page by page while series, readings and anything else may be
added.  Nothing is handed out twice, and nothing that was there when the walk began is left out.

## Main definitions

* `MemoryStore.SeriesListable` — the stores whose series a catalog can hand out page by page.
* `MemoryStore.seriesWalk` — the answers of a walk.

## Main statements

* `serves_series` — the answers of a store describe its series.
* `seriesWalk_complete` — what a walk hands out.
-/

namespace HydroArchive.MemoryStore

/-- The entries of the series of an office, or of all, in the order in which they were added. -/
def seriesEntries (m : MemoryStore) (office : Option String) : List SeriesEntry :=
  (m.registered.filter fun s => officePasses office s.office).map Series.entry

/-- The entries in catalog order. -/
def seriesListing (m : MemoryStore) (office : Option String) : List SeriesEntry :=
  CatalogKey.sortRows Text.upper SeriesEntry.key (m.seriesEntries office)

/-- The series have different keys, and cursors can carry all of them. -/
structure SeriesListable (m : MemoryStore) : Prop where
  distinct : (m.registered.map Series.key).Nodup
  resumable : ∀ s ∈ m.registered, s.key.Resumable

theorem SeriesListable.of_part {m : MemoryStore} {all : List Series}
    (part : m.registered <+: all) (distinct : (all.map Series.key).Nodup)
    (resumable : ∀ s ∈ all, s.key.Resumable) : m.SeriesListable where
  distinct := distinct.sublist (part.sublist.map _)
  resumable s hs := resumable s (part.subset hs)

/-- The answers of a walk through the series catalog.  The first request names the page size of
`request`, and each later one that of its visit. -/
def seriesWalk (m : MemoryStore) (request : CatalogRequest) (visits : List Visit) :
    List (Except RetrievalError (CatalogPage SeriesEntry)) :=
  m.walk (fun store pageSize cursor =>
      retrieveSeriesCatalog store { request with cursor := cursor, pageSize := pageSize })
    CatalogPage.next request.pageSize visits

/-! ## The listing -/

theorem mem_seriesListing {m : MemoryStore} {office : Option String} {e : SeriesEntry} :
    e ∈ m.seriesListing office
      ↔ ∃ s ∈ m.registered, officePasses office s.office = true ∧ s.entry = e := by
  rw [seriesListing, (CatalogKey.sortRows_perm _ _).mem_iff]
  simp only [seriesEntries, List.mem_map, List.mem_filter, and_assoc]

@[simp] theorem length_seriesListing (m : MemoryStore) (office : Option String) :
    (m.seriesListing office).length = (m.seriesEntries office).length :=
  (CatalogKey.sortRows_perm _ _).length_eq

/-- The answers of a healthy store describe its series in catalog order. -/
theorem serves_series {m : MemoryStore} (healthy : m.healthy = true) :
    Serves m.queries.countSeries m.queries.seriesCatalog SeriesEntry.key m.seriesListing where
  count office := by
    simp only [queries, whenHealthy_of_healthy healthy, length_seriesListing, seriesEntries,
      registered, List.length_map, List.filter_map, List.countP_eq_length_filter]
    rfl
  rows q := by
    have entries : m.series.map (fun s => s.series.entry) = m.registered.map Series.entry := by
      rw [registered, List.map_map]
      rfl
    have admitted : ((m.registered.map Series.entry).filter fun e => q.admits e.key)
        = (m.seriesEntries q.office).filter fun e =>
            q.after.admits CatalogKey.order e.key := by
      rw [seriesEntries, List.filter_map, List.filter_map, List.filter_filter]
      congr 1
      refine List.filter_congr fun s _ => ?_
      simp only [Function.comp_apply, CatalogQuery.admits, CatalogQuery.matchesOffice,
        Bool.and_comm]
      cases q.after <;> rfl
    simp only [queries, whenHealthy_of_healthy healthy, seriesCatalog, entries, admitted]
    rw [CatalogKey.sortRows, ← Text.filter_sortByColumns]
    rfl

theorem SeriesListable.ascending {m : MemoryStore} (h : m.SeriesListable) (office : Option String) :
    Ascending CatalogKey.order SeriesEntry.key (m.seriesListing office) := by
  refine CatalogKey.ascending_sortRows ?_
  rw [seriesEntries, List.map_map]
  exact h.distinct.sublist (List.filter_sublist.map _)

/-! ## The walk -/

section Walk

variable {m : MemoryStore} {request : CatalogRequest} {visits : List Visit}

theorem met_of_additions (additions : ∀ v ∈ visits, ∀ c ∈ v.changes, c.isAddition = true) :
    ∀ s ∈ m :: m.met visits, s.healthy = m.healthy ∧ m.registered <+: s.registered :=
  forall_met (R := fun s s' => s'.healthy = s.healthy ∧ s.registered <+: s'.registered)
    (fun _ => ⟨rfl, List.prefix_rfl⟩)
    (fun h k => ⟨k.1.trans h.1, h.2.trans k.2⟩)
    (fun v hv s => ⟨healthy_applyAll s (additions v hv),
      registered_applyAll s (additions v hv) ▸ List.prefix_append _ _⟩) m

/-- The series that are there at any time are the first of those that are there in the end. -/
theorem registered_met (additions : ∀ v ∈ visits, ∀ c ∈ v.changes, c.isAddition = true) :
    ∀ s ∈ m :: m.met visits, s.registered
      <+: m.registered ++ visits.flatMap fun v => v.changes.flatMap Change.newSeries := by
  induction visits generalizing m with
  | nil =>
    intro s hs
    rw [List.mem_singleton.1 hs]
    exact List.prefix_append _ _
  | cons v later ih =>
    intro s hs
    rcases List.mem_cons.1 hs with rfl | hs
    · exact List.prefix_append _ _
    · rw [List.flatMap_cons, ← List.append_assoc,
        ← registered_applyAll m (additions v List.mem_cons_self)]
      exact ih (fun w hw => additions w (List.mem_cons_of_mem v hw)) s hs

theorem serves_met (healthy : m.healthy = true)
    (additions : ∀ v ∈ visits, ∀ c ∈ v.changes, c.isAddition = true) :
    ∀ s ∈ m :: m.met visits,
      Serves s.queries.countSeries s.queries.seriesCatalog SeriesEntry.key s.seriesListing :=
  fun s hs => serves_series ((met_of_additions additions s hs).1.trans healthy)

theorem SeriesListable.resumable_entry (listable : m.SeriesListable) {office : Option String} :
    ∀ e ∈ m.seriesListing office, e.key.Resumable := by
  intro e he
  obtain ⟨x, hx, -, rfl⟩ := mem_seriesListing.1 he
  exact listable.resumable x hx

/-- No cursor of a walk is too long if the offices and identifiers of the series are not. -/
theorem seriesWalk_short (healthy : m.healthy = true) (pos : 0 < request.pageSize)
    (additions : ∀ v ∈ visits, ∀ c ∈ v.changes, c.isAddition = true)
    (listable : ∀ s ∈ m :: m.met visits, s.SeriesListable)
    (small : ∀ s ∈ m :: m.met visits, ∀ x ∈ s.registered,
      x.key.resumeKey.utf8ByteSize ≤ 1000) :
    ∀ page, .ok page ∈ m.seriesWalk request visits → ∀ c, page.next = some c →
      c.utf8ByteSize ≤ maxCursorLength :=
  catalogWalk_short (serves_met healthy additions) pos
    (fun s hs => (listable s hs).resumable_entry) fun s hs e he => by
      obtain ⟨x, hx, -, rfl⟩ := mem_seriesListing.1 he
      exact small s hs x hx

/-- An entry that was there at first is there at all times. -/
theorem mem_seriesListing_of_met {office : Option String}
    (additions : ∀ v ∈ visits, ∀ c ∈ v.changes, c.isAddition = true) {e : SeriesEntry}
    (he : e ∈ m.seriesEntries office) : ∀ s ∈ m :: m.met visits, e ∈ s.seriesListing office := by
  intro s hs
  have there : e ∈ m.seriesListing office := (CatalogKey.sortRows_perm _ _).mem_iff.2 he
  obtain ⟨series, mem, passes, rfl⟩ := mem_seriesListing.1 there
  exact mem_seriesListing.2 ⟨series, (met_of_additions additions s hs).2.subset mem, passes, rfl⟩

/-- If no series is added, the listing stays the same. -/
theorem seriesListing_of_met (office : Option String)
    (additions : ∀ v ∈ visits, ∀ c ∈ v.changes, c.isAddition = true)
    (noSeries : ∀ v ∈ visits, ∀ c ∈ v.changes, c.newSeries = []) :
    ∀ s ∈ m :: m.met visits, s.seriesListing office = m.seriesListing office := by
  have same : ∀ s ∈ m :: m.met visits, s.registered = m.registered :=
    forall_met (R := fun s s' => s'.registered = s.registered) (fun _ => rfl)
      (fun h k => k.trans h)
      (fun v hv s => by
        rw [registered_applyAll s (additions v hv), List.flatMap_eq_nil_iff.2 (noSeries v hv),
          List.append_nil]) m
  intro s hs
  rw [seriesListing, seriesListing, seriesEntries, seriesEntries, same s hs]

/-- A walk through the series catalog with any additions between its requests.  No request fails.
The entries ascend through all pages, a page with a next one is full, and every page has the total
of the first.  A finished walk has handed out each entry that was there at first exactly once.  If
no series was added, the walk takes as many pages as the entries need, and hands out these and
nothing else. -/
theorem seriesWalk_complete (healthy : m.healthy = true) (pos : 0 < request.pageSize)
    (additions : ∀ v ∈ visits, ∀ c ∈ v.changes, c.isAddition = true)
    (listable : ∀ s ∈ m :: m.met visits, s.SeriesListable)
    (short : ∀ page, .ok page ∈ m.seriesWalk request visits → ∀ c, page.next = some c →
      c.utf8ByteSize ≤ maxCursorLength) :
    let size := request.pageSize.toInt.toNat
    let entries := m.seriesEntries (Text.nonBlank? request.office)
    ∃ pages, m.seriesWalk request visits = pages.map .ok ∧
      (pages.flatMap CatalogPage.entries).Pairwise (fun a b => b.key.isAfter a.key = true) ∧
      (∀ page ∈ pages, page.next.isSome → page.entries.length = size) ∧
      (∀ page ∈ pages.dropLast, page.next.isSome) ∧
      (∀ page ∈ pages, page.total = some (UInt64.ofNat entries.length)) ∧
      (Finished CatalogPage.next pages →
        ∀ e ∈ entries, (pages.flatMap CatalogPage.entries).count e = 1) ∧
      ((∀ v ∈ visits, ∀ c ∈ v.changes, c.newSeries = []) →
        pages.length = min (visits.length + 1) (pageCount size entries.length) ∧
        (pageCount size entries.length ≤ visits.length + 1 →
          Finished CatalogPage.next pages ∧
            (pages.flatMap CatalogPage.entries).Perm entries)) := by
  intro size entries
  obtain ⟨pages, answers, shown⟩ := catalogWalk_shows id (serves_met healthy additions) pos
    (fun s hs => (listable s hs).resumable_entry) rfl
    fun page answer _ _ _ _ next => short page answer _ next
  generalize hoffice : Text.nonBlank? request.office = office at shown
  have sized : 0 < size := toNat_pos pos
  have ascending : ∀ rows ∈ (m :: m.met visits).map (fun s => s.seriesListing office),
      Ascending CatalogKey.order SeriesEntry.key rows :=
    List.forall_mem_map.2 fun s hs => (listable s hs).ascending office
  have sorted := ascending_portions size .start ascending
  have all : pages.flatMap CatalogPage.entries = handedOut _ :=
    (entries_of_shows shown).trans (List.map_id _)
  refine ⟨pages, answers, all ▸ sorted, length_of_shows shown, next_of_shows shown, ?_, ?_, ?_⟩
  · intro page hp
    rw [length_seriesListing, ← hoffice] at shown
    exact total_of_shows shown page hp
  · intro finished e he
    have always := mem_seriesListing_of_met additions he
    rw [hoffice] at always
    have mem := mem_handedOut .start sized ascending (List.forall_mem_map.2 always) rfl
      ((finished_of_shows shown).1 finished)
    rw [all]
    exact List.count_eq_one_of_mem sorted.nodup_keys.of_map mem
  · intro noSeries
    have same : ∀ rows ∈ (m :: m.met visits).map (fun s => s.seriesListing office),
        rows = m.seriesListing office :=
      List.forall_mem_map.2 (seriesListing_of_met office additions noSeries)
    obtain ⟨length, enough⟩ := unchanged_of_shows sized
      ((listable m List.mem_cons_self).ascending office) same shown
    rw [length_seriesListing, List.length_map, List.length_cons, length_met, ← hoffice]
      at length enough
    refine ⟨length, fun long => ?_⟩
    obtain ⟨finished, listed⟩ := enough long
    refine ⟨finished, ?_⟩
    rw [List.map_id] at listed
    exact listed ▸ CatalogKey.sortRows_perm _ _

end Walk

def sampleSeries (id : String) : Series := ⟨"SWT", id, "m", "m", "ft", 60⟩

def sampleStore : MemoryStore where
  series := [⟨sampleSeries "KEYS", .empty⟩, ⟨sampleSeries "brok", .empty⟩]

/-- A series and an office are added before the second page, and nothing before the third. -/
def sampleVisits : List Visit :=
  [⟨[.series (sampleSeries "FOSS"), .office ⟨"SWT", "Tulsa District", "DIS", none⟩], 5⟩, ⟨[], 0⟩]

/-- A walk with pages of one entry. -/
theorem seriesWalk_complete_sample :
    ∃ pages, sampleStore.seriesWalk ⟨some "swt", none, 1, .si⟩ sampleVisits = pages.map .ok ∧
      (pages.flatMap CatalogPage.entries).Pairwise (fun a b => b.key.isAfter a.key = true) ∧
      (Finished CatalogPage.next pages → ∀ e ∈ sampleStore.seriesEntries (some "swt"),
        (pages.flatMap CatalogPage.entries).count e = 1) := by
  have additions : ∀ v ∈ sampleVisits, ∀ c ∈ v.changes, c.isAddition = true := by
    simp [sampleVisits, Change.isAddition]
  have part : ∀ s ∈ sampleStore :: sampleStore.met sampleVisits, s.registered
      <+: ["KEYS", "brok", "FOSS"].map sampleSeries := registered_met additions
  have listable : ∀ s ∈ sampleStore :: sampleStore.met sampleVisits, s.SeriesListable :=
    fun s hs => SeriesListable.of_part (part s hs) (by decide) (by decide)
  have small : ∀ x ∈ ["KEYS", "brok", "FOSS"].map sampleSeries,
      x.key.resumeKey.utf8ByteSize ≤ 1000 := by decide
  have short : ∀ page, .ok page ∈ sampleStore.seriesWalk ⟨some "swt", none, 1, .si⟩ sampleVisits →
      ∀ c, page.next = some c → c.utf8ByteSize ≤ maxCursorLength :=
    seriesWalk_short rfl (by decide) additions listable fun s hs x hx =>
      small x ((part s hs).subset hx)
  obtain ⟨pages, answers, sorted, -, -, -, once, -⟩ :=
    seriesWalk_complete rfl (by decide) additions listable short
  exact ⟨pages, answers, sorted, once⟩

end HydroArchive.MemoryStore
