import HydroArchive.Proofs.Page.InstantKey
import HydroArchive.Proofs.Retrieval.Follow
import HydroArchive.Proofs.Text.Columns

/-!
# Walks through the readings of a series

The readings of a window are handed out page by page while more readings are stored.  As long as
their times are whole milliseconds, resume keys carry them unchanged, and nothing is handed out
twice or left out.

## Main definitions

* `ServesReadings` — the answers of a store describe the readings of a series in a window.
* `MemoryStore.SeriesApart` — no two series have one name up to the case of letters.
* `MemoryStore.windowEntries` — the stored readings of a series in a window.
* `MemoryStore.readingsWalk` — the answers of a walk.

## Main statements

* `retrieveReadings_first`, `retrieveReadings_later` — what one page shows.
* `serves_readings` — the answers of a healthy store describe its readings.
* `readingsWalk_complete` — what a walk hands out.
-/

namespace HydroArchive

/-- The cursor of the page after a reading. -/
def valuesCursor (total : Option UInt64) (pageSize : Int32) (t : Instant) : String :=
  PageToken.encode ⟨.values, instantKey t, total, pageSize⟩

/-- What a caller reads off a page of readings. -/
def ReadingsPage.view : PageView ReadingsPage ShownReading where
  next := ReadingsPage.next
  total := ReadingsPage.total
  entries := ReadingsPage.readings

theorem valuesCursor_short {t : Instant} (covered : t.inRange = true) (total : Option UInt64)
    (pageSize : Int32) : (valuesCursor total pageSize t).utf8ByteSize ≤ maxCursorLength := by
  have bound := PageToken.utf8ByteSize_encode_le ⟨.values, instantKey t, total, pageSize⟩
  have key := utf8ByteSize_instantKey_le covered
  rw [valuesCursor, maxCursorLength]
  simp only at bound
  omega

/-! ## Plans -/

section Plans

variable {request : ReadingsRequest} {now : Instant} {window : TimeWindow}
  (resolved : TimeWindow.resolve request.beginText request.endText request.zoneName now
    = .ok window)

include resolved

theorem planReadings_first (h : request.cursor = none) :
    planReadings request now = .ok (window, {
      query := ⟨.start, window.beginTime.instant, window.endTime.instant,
        rowLimit request.pageSize⟩
      isFirstPage := true
      knownTotal := none
      pageSize := request.pageSize }) := by
  rw [planReadings, h, resolved]
  rfl

theorem planReadings_later {total : Option UInt64} {size : Int32} {t : Instant} (pos : 0 < size)
    (whole : t.WholeMillis) (h : request.cursor = some (valuesCursor total size t)) :
    planReadings request now = .ok (window, {
      query := ⟨.after t, window.beginTime.instant, window.endTime.instant, rowLimit size⟩
      isFirstPage := false
      knownTotal := total
      pageSize := size }) := by
  have token : requestedToken request.cursor .values
      = .ok (some ⟨.values, instantKey t, total, size⟩) :=
    h ▸ requestedToken_encode (valuesCursor_short whole.covered total size)
  have fixed : effectivePageSize (some ⟨.values, instantKey t, total, size⟩) request.pageSize
      = size := effectivePageSize_of_pos pos _
  rw [planReadings, token, resolved]
  simp only [bind, Except.bind, Except.mapError, plan_instantKey whole.covered, whole.resumed_eq,
    whole.covered, if_true, fixed]
  rfl

end Plans

/-! ## Pages -/

/-- An entry of a timeline as it is shown after a conversion. -/
def shownIn (c : Conversion) (e : Instant × StoredValue) : ShownReading :=
  ((MemoryStore.readingOf e).convert c).shown

@[simp] theorem time_shownIn (c : Conversion) : ShownReading.time ∘ shownIn c = Prod.fst := rfl

/-- The answers of a store describe the readings of one series in a window: the request names the
series, the count is their number, and a query admits those that are still to come, up to the limit
and converted. -/
structure ServesReadings (store : Queries) (request : ReadingsRequest) (series : Series)
    (window : TimeWindow) (c : Conversion) (listing : List (Instant × StoredValue)) : Prop where
  named : requestedSeries store request = .ok series
  count : store.countReadings series window.beginTime.instant window.endTime.instant
    = .ok listing.length
  readings : ∀ place limit, store.readings series (shownUnit request.units series)
      ⟨place, window.beginTime.instant, window.endTime.instant, limit⟩
    = .ok ((takeLimit limit (place.rest Instant.order Prod.fst listing)).map fun e =>
        (MemoryStore.readingOf e).convert c)

theorem ServesReadings.asked {store : Queries} {request : ReadingsRequest} {series : Series}
    {window : TimeWindow} {c : Conversion} {listing : List (Instant × StoredValue)}
    (h : ServesReadings store request series window c listing) (cursor : Option String)
    (pageSize : Int32) :
    ServesReadings store { request with cursor := cursor, pageSize := pageSize } series window c
      listing := ⟨h.named, h.count, h.readings⟩

section Pages

variable {store : Queries} {now : Instant} {series : Series} {window : TimeWindow}
  {c : Conversion} {listing : List (Instant × StoredValue)}

/-- The page of a plan shows the portion where the query starts. -/
theorem retrieveReadings_of_plan {request : ReadingsRequest}
    (serves : ServesReadings store request series window c listing)
    {plan : PagePlan ValuesQuery} {place : Resume Instant} {total : Option UInt64}
    (planned : planReadings request now = .ok (window, plan))
    (query : plan.query = ⟨place, window.beginTime.instant, window.endTime.instant,
      rowLimit plan.pageSize⟩)
    (known : listingTotal plan (.ok listing.length) = .ok total) (pos : 0 < plan.pageSize) :
    ∃ page, retrieveReadings store request now = .ok page ∧
      Shows ReadingsPage.view (shownIn c) total (valuesCursor total plan.pageSize) page
        (portion Instant.order Prod.fst plan.pageSize.toInt.toNat place listing) := by
  simp only [retrieveReadings, planned, serves.named, query, serves.count, known, pageReadings,
    if_pos pos, serves.readings, ← takeLimit_map, splitPage_takeLimit pos, bind, Except.bind,
    Except.map, Except.mapError]
  refine ⟨_, rfl, ?_, ?_, rfl⟩
  · simp only [ReadingsPage.view, portion, ← List.map_take, List.map_map]
    rfl
  · simp only [ReadingsPage.view, portion, nextToken, decide_eq_true_eq, List.length_map]
    split
    case isTrue =>
      rw [← List.map_take, List.getLast?_map]
      cases List.getLast? _ <;> rfl
    case isFalse => rfl

/-- The first page shows the first portion and counts the window. -/
theorem retrieveReadings_first (request : ReadingsRequest)
    (serves : ServesReadings store request series window c listing)
    (resolved : TimeWindow.resolve request.beginText request.endText request.zoneName now
      = .ok window) (pos : 0 < request.pageSize) (h : request.cursor = none) :
    let total := some (UInt64.ofNat listing.length)
    ∃ page, retrieveReadings store request now = .ok page ∧
      Shows ReadingsPage.view (shownIn c) total (valuesCursor total request.pageSize) page
        (portion Instant.order Prod.fst request.pageSize.toInt.toNat .start listing) := by
  have planned := planReadings_first resolved h
  have page := retrieveReadings_of_plan serves planned rfl rfl pos
  exact page

/-- A later page shows the portion after the time in its cursor, with the total and the page size of
the cursor. -/
theorem retrieveReadings_later (request : ReadingsRequest)
    (serves : ServesReadings store request series window c listing)
    (resolved : TimeWindow.resolve request.beginText request.endText request.zoneName now
      = .ok window) {total : Option UInt64} {size : Int32} {t : Instant} (pos : 0 < size)
    (whole : t.WholeMillis) (h : request.cursor = some (valuesCursor total size t)) :
    ∃ page, retrieveReadings store request now = .ok page ∧
      Shows ReadingsPage.view (shownIn c) total (valuesCursor total size) page
        (portion Instant.order Prod.fst size.toInt.toNat (.after t) listing) := by
  have planned := planReadings_later resolved pos whole h
  have page := retrieveReadings_of_plan serves planned rfl rfl pos
  exact page

end Pages

/-! ## The listing -/

namespace MemoryStore

/-- No two series have the same office and identifier up to the case of letters. -/
def SeriesApart (m : MemoryStore) : Prop :=
  m.registered.Pairwise fun a b =>
    ¬ (Text.sameFold a.office b.office = true ∧ Text.sameFold a.id b.id = true)

/-- The readings of a series that are stored in a window. -/
def windowEntries (m : MemoryStore) (series : Series) (window : TimeWindow) :
    List (Instant × StoredValue) :=
  ((m.findSeries? series.office series.id).map fun stored =>
    stored.values.between window.beginTime.instant window.endTime.instant).getD []

theorem mem_between {stored : StoredSeries} {window : TimeWindow} {e : Instant × StoredValue} :
    e ∈ stored.values.between window.beginTime.instant window.endTime.instant
      ↔ e ∈ stored.values.entries ∧ window.contains e.1 = true := List.mem_filter

theorem ascending_between (stored : StoredSeries) (window : TimeWindow) :
    Ascending Instant.order Prod.fst
      (stored.values.between window.beginTime.instant window.endTime.instant) :=
  (stored.values.ascending.filter _).imp fun h => decide_eq_true h

theorem findSeries?_self {m : MemoryStore} (apart : m.SeriesApart) {stored : StoredSeries}
    (h : stored ∈ m.series) :
    m.findSeries? stored.series.office stored.series.id = some stored := by
  have apart : m.series.Pairwise fun a b => ¬ (Text.sameFold a.series.office b.series.office = true
      ∧ Text.sameFold a.series.id b.series.id = true) := List.pairwise_map.1 apart
  rw [findSeries?]
  generalize m.series = ss at h apart
  induction ss with
  | nil => cases h
  | cons s ss ih =>
    have parts := List.pairwise_cons.1 apart
    rcases List.mem_cons.1 h with rfl | h
    · exact List.find?_cons_of_pos (by simp [StoredSeries.isNamed])
    · have other : s.isNamed stored.series.office stored.series.id = false := by
        simpa [StoredSeries.isNamed] using parts.1 stored h
      rw [List.find?_cons, other]
      exact ih h parts.2

/-- Within its window, a query admits the readings that are still to come at its place. -/
theorem filter_admits_between (l : Timeline StoredValue) (q : ValuesQuery) :
    (l.between q.beginTime q.endTime).filter (fun e => q.admits e.1)
      = q.after.rest Instant.order Prod.fst (l.between q.beginTime q.endTime) := by
  refine List.filter_congr fun e he => ?_
  have inside := (List.mem_filter.1 he).2
  simp only [Bool.and_eq_true, decide_eq_true_eq] at inside
  cases place : q.after <;>
    simp [ValuesQuery.admits, place, Resume.admits, Instant.order, inside]

/-- The answers of a healthy store describe the readings of the series that is found under the name
of the requested one. -/
theorem serves_readings {m : MemoryStore} {request : ReadingsRequest} {series : Series}
    {stored : StoredSeries} {c : Conversion} (healthy : m.healthy = true) (window : TimeWindow)
    (named : (m.seriesNamed (Text.nonBlank? request.office) request.name).head? = some series)
    (found : m.findSeries? series.office series.id = some stored)
    (convertible : m.conversion? stored.series.storageUnit (shownUnit request.units series)
      = some c) :
    ServesReadings m.queries request series window c
      (stored.values.between window.beginTime.instant window.endTime.instant) where
  named := by
    simp only [requestedSeries, queries, whenHealthy_of_healthy healthy, named, bind, Except.bind,
      Except.mapError]
    rfl
  count := by
    simp only [queries, whenHealthy_of_healthy healthy, countReadings, found]
  readings place limit := by
    have admitted := filter_admits_between stored.values
      ⟨place, window.beginTime.instant, window.endTime.instant, limit⟩
    simp only at admitted
    simp only [queries, whenHealthy_of_healthy healthy, MemoryStore.readings, found, convertible,
      admitted]

/-! ## The walk -/

/-- The answers of a walk through the readings that a request asks for at the time `now`.  The first
request names the page size of `request`, and each later one that of its visit. -/
def readingsWalk (m : MemoryStore) (request : ReadingsRequest) (now : Instant)
    (visits : List Visit) : List (Except RetrievalError ReadingsPage) :=
  m.walk (fun store pageSize cursor =>
      retrieveReadings store { request with cursor := cursor, pageSize := pageSize } now)
    ReadingsPage.next request.pageSize visits

section Walk

open StoredSeries (Grown)

variable {m : MemoryStore} {visits : List Visit} {p : Instant → Prop}

theorem exists_grown_of_met (writes : ∀ v ∈ visits, ∀ ch ∈ v.changes, ch.StoresOnly p) :
    ∀ s ∈ m :: m.met visits,
      ∃ ss, s = { m with series := ss } ∧ List.Forall₂ (Grown p) m.series ss :=
  forall_met (R := fun s s' => ∃ ss, s' = { s with series := ss } ∧
      List.Forall₂ (Grown p) s.series ss)
    (fun s => ⟨s.series, rfl, forall₂_grown_refl p s.series⟩)
    (by
      rintro s s' s'' ⟨ss, rfl, grown⟩ ⟨ss', rfl, grown'⟩
      exact ⟨ss', rfl, forall₂_grown_trans grown grown'⟩)
    (fun v hv s => grown_applyAll s (writes v hv)) m

/-- The series that is found under a name is still found after readings were stored. -/
theorem exists_find?_of_grown {ss ss' : List StoredSeries} (h : List.Forall₂ (Grown p) ss ss')
    {office id : String} {stored : StoredSeries}
    (found : ss.find? (·.isNamed office id) = some stored) :
    ∃ stored', ss'.find? (·.isNamed office id) = some stored' ∧ Grown p stored stored' := by
  induction h with
  | nil => cases found
  | @cons s s' ss ss' g _ ih =>
    rw [List.find?_cons] at found ⊢
    rw [g.isNamed]
    cases named : s.isNamed office id with
    | true =>
      rw [named] at found
      cases found
      exact ⟨s', rfl, g⟩
    | false =>
      rw [named] at found
      exact ih found

/-- A later state of the series in each store that is met. -/
theorem exists_stored_of_met (writes : ∀ v ∈ visits, ∀ ch ∈ v.changes, ch.StoresOnly p)
    {stored : StoredSeries}
    (found : m.findSeries? stored.series.office stored.series.id = some stored) :
    ∀ s ∈ m :: m.met visits, ∃ stored', Grown p stored stored' ∧
      s.findSeries? stored.series.office stored.series.id = some stored' := by
  intro s hs
  obtain ⟨ss, rfl, grown⟩ := exists_grown_of_met writes s hs
  obtain ⟨stored', found', g⟩ := exists_find?_of_grown grown found
  exact ⟨stored', g, found'⟩

variable {request : ReadingsRequest} {now : Instant} {stored : StoredSeries} {window : TimeWindow}
  {c : Conversion}

variable (window) in
/-- The answers of each store that is met describe the readings that it has in the window. -/
theorem serves_met_readings (healthy : m.healthy = true)
    (writes : ∀ v ∈ visits, ∀ ch ∈ v.changes, ch.StoresOnly p)
    (named : (m.seriesNamed (Text.nonBlank? request.office) request.name).head?
      = some stored.series)
    (found : m.findSeries? stored.series.office stored.series.id = some stored)
    (convertible : m.conversion? stored.series.storageUnit
      (shownUnit request.units stored.series) = some c) :
    ∀ s ∈ m :: m.met visits, ServesReadings s.queries request stored.series window c
      (s.windowEntries stored.series window) := by
  intro s hs
  obtain ⟨stored', g, found'⟩ := exists_stored_of_met writes found s hs
  obtain ⟨ss, rfl, grown⟩ := exists_grown_of_met writes s hs
  have still : (seriesNamed { m with series := ss } (Text.nonBlank? request.office)
      request.name).head? = some stored'.series := by
    rw [g.series, ← named, seriesNamed, seriesNamed, map_series_of_grown grown]
  rw [← g.series] at found' convertible
  rw [windowEntries, ← g.series, found']
  exact serves_readings (m := { m with series := ss }) healthy window still found' convertible

/-- All readings in the window are at whole milliseconds, at all times. -/
theorem wholeMillis_of_met
    (writes : ∀ v ∈ visits, ∀ ch ∈ v.changes,
      ch.StoresOnly fun t => window.contains t = true → t.WholeMillis)
    (found : m.findSeries? stored.series.office stored.series.id = some stored)
    (whole : ∀ e ∈ stored.values.entries, window.contains e.1 = true → e.1.WholeMillis) :
    ∀ s ∈ m :: m.met visits, ∀ e ∈ s.windowEntries stored.series window, e.1.WholeMillis := by
  intro s hs e he
  obtain ⟨stored', g, found'⟩ := exists_stored_of_met writes found s hs
  rw [windowEntries, found'] at he
  obtain ⟨mem, inside⟩ := mem_between.1 he
  rcases g.added e mem with ⟨old, hold, same⟩ | new
  · exact same ▸ whole old hold (same ▸ inside)
  · exact new inside

/-- A time that is stored at first is stored at all times. -/
theorem exists_mem_of_met (writes : ∀ v ∈ visits, ∀ ch ∈ v.changes, ch.StoresOnly p)
    (found : m.findSeries? stored.series.office stored.series.id = some stored)
    {e : Instant × StoredValue} (he : e ∈ m.windowEntries stored.series window) :
    ∀ s ∈ m :: m.met visits, ∃ e' ∈ s.windowEntries stored.series window, e'.1 = e.1 := by
  intro s hs
  obtain ⟨stored', g, found'⟩ := exists_stored_of_met writes found s hs
  rw [windowEntries, found] at he
  obtain ⟨mem, inside⟩ := mem_between.1 he
  obtain ⟨e', mem', same⟩ := g.kept e mem
  rw [windowEntries, found']
  exact ⟨e', mem_between.2 ⟨mem', same ▸ inside⟩, same⟩

theorem contains_of_mem_windowEntries {series : Series} {e : Instant × StoredValue}
    (h : e ∈ m.windowEntries series window) : window.contains e.1 = true := by
  rw [windowEntries] at h
  cases found : m.findSeries? series.office series.id with
  | none => simp [found] at h
  | some stored =>
    rw [found] at h
    exact (mem_between.1 h).2

theorem ascending_windowEntries (m : MemoryStore) (series : Series) (window : TimeWindow) :
    Ascending Instant.order Prod.fst (m.windowEntries series window) := by
  rw [windowEntries]
  cases m.findSeries? series.office series.id with
  | none => exact List.Pairwise.nil
  | some stored => exact ascending_between stored window

/-- Each answer of a walk shows its portion of the readings in the window. -/
theorem readingsWalk_shows
    (serves : ∀ s ∈ m :: m.met visits, ServesReadings s.queries request stored.series window c
      (s.windowEntries stored.series window))
    (resolved : TimeWindow.resolve request.beginText request.endText request.zoneName now
      = .ok window)
    (pos : 0 < request.pageSize)
    (millis : ∀ s ∈ m :: m.met visits, ∀ e ∈ s.windowEntries stored.series window,
      e.1.WholeMillis)
    {total : Option UInt64}
    (counted : total = some (UInt64.ofNat (m.windowEntries stored.series window).length)) :
    ∃ pages, m.readingsWalk request now visits = pages.map .ok ∧
      List.Forall₂ (Shows ReadingsPage.view (shownIn c) total
          (valuesCursor total request.pageSize)) pages
        (portions Instant.order Prod.fst request.pageSize.toInt.toNat .start
          ((m :: m.met visits).map fun s => s.windowEntries stored.series window)) := by
  have first := retrieveReadings_first { request with cursor := none }
    ((serves m List.mem_cons_self).asked none request.pageSize) resolved pos rfl
  exact walk_shows ReadingsPage.view (shownIn c) total (valuesCursor total request.pageSize)
    Instant.WholeMillis (fun s => s.windowEntries stored.series window) (counted ▸ first)
    (fun s hs requested t whole _ => retrieveReadings_later _
      ((serves s (List.mem_cons_of_mem m hs)).asked _ requested) resolved pos whole rfl)
    millis (fun _ _ t whole _ => valuesCursor_short whole.covered _ _)

/-- A walk through the readings of a series, with more of them stored between its requests.  All
times in the window are whole milliseconds.  No request fails.  Times ascend through all pages and
lie in the window, a page with a next one is full, and every page has the total of the first.  A
finished walk has handed out each time that was there at first exactly once.  If nothing was stored,
the walk takes as many pages as the readings need, and hands out these and nothing else. -/
theorem readingsWalk_complete (healthy : m.healthy = true) (apart : m.SeriesApart)
    (there : stored ∈ m.series)
    (named : (m.seriesNamed (Text.nonBlank? request.office) request.name).head?
      = some stored.series)
    (resolved : TimeWindow.resolve request.beginText request.endText request.zoneName now
      = .ok window)
    (convertible : m.conversion? stored.series.storageUnit
      (shownUnit request.units stored.series) = some c)
    (pos : 0 < request.pageSize)
    (whole : ∀ e ∈ stored.values.entries, window.contains e.1 = true → e.1.WholeMillis)
    (writes : ∀ v ∈ visits, ∀ ch ∈ v.changes,
      ch.StoresOnly fun t => window.contains t = true → t.WholeMillis) :
    let size := request.pageSize.toInt.toNat
    let entries := stored.values.between window.beginTime.instant window.endTime.instant
    ∃ pages, m.readingsWalk request now visits = pages.map .ok ∧
      (pages.flatMap ReadingsPage.readings).Pairwise (fun a b => a.time < b.time) ∧
      (∀ r ∈ pages.flatMap ReadingsPage.readings, window.contains r.time = true) ∧
      (∀ page ∈ pages, page.next.isSome → page.readings.length = size) ∧
      (∀ page ∈ pages.dropLast, page.next.isSome) ∧
      (∀ page ∈ pages, page.total = some (UInt64.ofNat entries.length)) ∧
      (Finished ReadingsPage.next pages → ∀ e ∈ entries,
        ((pages.flatMap ReadingsPage.readings).map ShownReading.time).count e.1 = 1) ∧
      ((∀ v ∈ visits, v.changes = []) →
        pages.length = min (visits.length + 1) (pageCount size entries.length) ∧
        (pageCount size entries.length ≤ visits.length + 1 →
          Finished ReadingsPage.next pages ∧
            pages.flatMap ReadingsPage.readings
              = entries.map fun e => ((readingOf e).convert c).shown)) := by
  intro size entries
  have found := findSeries?_self apart there
  have listed : m.windowEntries stored.series window = entries := by
    rw [windowEntries, found]
    rfl
  have serves := serves_met_readings window healthy writes named found convertible
  have millis := wholeMillis_of_met writes found whole
  have ascending : ∀ rows ∈ (m :: m.met visits).map fun s => s.windowEntries stored.series window,
      Ascending Instant.order Prod.fst rows :=
    List.forall_mem_map.2 fun s _ => s.ascending_windowEntries stored.series window
  obtain ⟨pages, answers, shown⟩ := readingsWalk_shows serves resolved pos millis rfl
  rw [listed] at shown
  have sorted := ascending_portions size .start ascending
  have all : pages.flatMap ReadingsPage.readings = (handedOut _).map (shownIn c) :=
    entries_of_shows shown
  refine ⟨pages, answers, ?_, ?_, length_of_shows shown, next_of_shows shown,
    total_of_shows shown, ?_, ?_⟩
  · rw [all]
    exact List.pairwise_map.2 (sorted.imp fun h => of_decide_eq_true h)
  · intro r hr
    rw [all] at hr
    obtain ⟨e, he, rfl⟩ := List.mem_map.1 hr
    obtain ⟨rows, hrows, mem⟩ := exists_mem_of_mem_handedOut he
    obtain ⟨s, hs, rfl⟩ := List.mem_map.1 hrows
    exact contains_of_mem_windowEntries mem
  · intro finished e he
    obtain ⟨r, hr, same⟩ := exists_mem_handedOut .start (toNat_pos pos) ascending
      (List.forall_mem_map.2 (exists_mem_of_met writes found (listed ▸ he))) rfl
      ((finished_of_shows shown).1 finished)
    rw [all, List.map_map, time_shownIn]
    exact List.count_eq_one_of_mem sorted.nodup_keys (List.mem_map.2 ⟨r, hr, same⟩)
  · intro unchanged
    have same : ∀ rows ∈ (m :: m.met visits).map fun s => s.windowEntries stored.series window,
        rows = entries :=
      List.forall_mem_map.2 fun s hs => eq_of_met unchanged s hs ▸ listed
    obtain ⟨length, enough⟩ := unchanged_of_shows (toNat_pos pos)
      (ascending_between stored window) same shown
    rw [List.length_map, List.length_cons, length_met] at length enough
    exact ⟨length, enough⟩

end Walk

def sampleReadings : StoredSeries :=
  StoredSeries.addReadings ⟨⟨"SWT", "KEYS.Elev", "m", "m", "ft", 60⟩, .empty⟩
    [⟨.ofSecond 7200, none, none⟩, ⟨.ofSecond 3600, none, some 3⟩]

/-- A request for the day that ends at the second midnight of 1970, in the storage unit. -/
def sampleRequest : ReadingsRequest :=
  ⟨"keys.elev", some "swt", some "m", none, none, none, none, 1⟩

/-- A reading is stored before the second page, and nothing before the third. -/
def sampleWrites : List Visit :=
  [⟨[.readings "swt" "KEYS.ELEV" [⟨.ofSecond 5400, none, none⟩]], 10⟩, ⟨[], 1⟩]

/-- A walk with pages of one reading. -/
theorem readingsWalk_complete_sample :
    ∃ pages, readingsWalk { series := [sampleReadings] } sampleRequest (.ofSecond 86400)
        sampleWrites = pages.map .ok ∧
      (pages.flatMap ReadingsPage.readings).Pairwise (fun a b => a.time < b.time) ∧
      (∀ page ∈ pages, page.total = some 2) ∧
      (Finished ReadingsPage.next pages → ∀ e ∈ sampleReadings.values.entries,
        ((pages.flatMap ReadingsPage.readings).map ShownReading.time).count e.1 = 1) := by
  have named : (seriesNamed { series := [sampleReadings] }
      (Text.nonBlank? sampleRequest.office) sampleRequest.name).head?
        = some sampleReadings.series := by
    have passes : (([sampleReadings].map StoredSeries.series).filter fun s =>
        officePasses (Text.nonBlank? sampleRequest.office) s.office
          && Text.sameFold s.id sampleRequest.name) = [sampleReadings.series] := by decide
    rw [seriesNamed, passes, CatalogKey.sortRows, Text.sortByColumns, List.mergeSort_singleton]
    rfl
  have resolved : TimeWindow.resolve none none none (.ofSecond 86400)
      = .ok ⟨⟨.ofSecond 0, .utc⟩, ⟨.ofSecond 86400, .utc⟩, .utc⟩ := rfl
  have whole : ∀ t ∈ sampleReadings.values.entries.map Prod.fst, t.WholeMillis := by decide
  have writes {p : Instant → Prop} (h : ∀ t : Instant, t.WholeMillis → p t) :
      ∀ v ∈ sampleWrites, ∀ ch ∈ v.changes, ch.StoresOnly p := by
    simp only [sampleWrites, List.mem_cons, List.not_mem_nil, or_false, forall_eq_or_imp, forall_eq,
      Change.StoresOnly, false_implies, implies_true, and_true]
    exact h (.ofSecond 5400) (by decide)
  obtain ⟨pages, answers, sorted, -, -, -, total, once, -⟩ :=
    readingsWalk_complete (m := { series := [sampleReadings] }) rfl (List.pairwise_singleton _ _)
      List.mem_cons_self named resolved rfl (by decide)
      (fun e he _ => whole e.1 (List.mem_map_of_mem he)) (writes fun _ h _ => h)
  exact ⟨pages, answers, sorted, total, once⟩

end MemoryStore

end HydroArchive
