import Mathlib.Data.List.Dedup
import HydroArchive.Proofs.Page.Key
import HydroArchive.Proofs.Retrieval.Origin
import HydroArchive.Proofs.Retrieval.ReadingsWalk
import HydroArchive.Proofs.Store.History

/-!
# What a page of readings shows

A page of readings describes one series and counts and shows the readings of one.  The first is the
first in catalog order that the request names; the second is the first that was registered under the
name of the first, where case does not count.  Where no two series differ in case only, these are
the same, and the readings on a long page are the last ones that were given for the series.

## Main definitions

* `ReadingsPage.Describes` — the series that a page describes.
* `MemoryStore.Reads` — the series whose readings a page counts and shows.
* `ReadingsRequest.Asks` — the window, the place and the page size that a request asks for.
* `MemoryStore.ShowsLast` — the last readings for each instant, as they are shown.

## Main statements

* `MemoryStore.shown_of_retrieveReadings` — a page describes a series and reads one.
* `MemoryStore.read_eq_described_iff` — when these are the same.
* `MemoryStore.readings_lastWritten` — a long page shows the last readings that were given.
-/

namespace HydroArchive

/-- The name, the office, the interval and the units on a page are those of a series. -/
structure ReadingsPage.Describes (page : ReadingsPage) (units : Option String) (s : Series) :
    Prop where
  name : page.name = s.id
  office : page.office = s.office
  interval : page.intervalMinutes = s.intervalMinutes
  units : page.units = shownUnit units s

/-- The readings of a stored series in a window are counted on a first page, and those at a place
are shown, as many as the page holds. -/
structure MemoryStore.Reads (m : MemoryStore) (stored : StoredSeries) (window : TimeWindow)
    (place : Resume Instant) (page : ReadingsPage) : Prop where
  counted : place.isStart = true → page.total = some (UInt64.ofNat
    (stored.values.between window.beginTime.instant window.endTime.instant).length)
  shown : 0 < page.pageSize →
    ∃ c, m.conversion? stored.series.storageUnit page.units = some c ∧
      page.readings = ((place.rest Instant.order Prod.fst (stored.values.between
        window.beginTime.instant window.endTime.instant)).take page.pageSize.toInt.toNat).map
          (shownIn c)
  bare : ¬ 0 < page.pageSize → page.readings = []

/-- The window, the place in it and the page size that a request asks for at the time `now`. -/
structure ReadingsRequest.Asks (request : ReadingsRequest) (now : Instant) (window : TimeWindow)
    (place : Resume Instant) (size : Int32) : Prop where
  window : TimeWindow.resolve request.beginText request.endText request.zoneName now = .ok window
  place : ∃ token, requestedToken request.cursor .values = .ok token ∧
    resumeInstant token = .ok place ∧ size = effectivePageSize token request.pageSize

variable {request : ReadingsRequest} {now : Instant} {window : TimeWindow}
  {place : Resume Instant} {size : Int32} {page : ReadingsPage}

/-- Without a cursor, a request asks for the start of its window and names the page size. -/
theorem ReadingsRequest.Asks.of_blank (h : request.Asks now window place size)
    (blank : Text.nonBlank? request.cursor = none) : place = .start ∧ size = request.pageSize := by
  obtain ⟨token, accepted, starts, rfl⟩ := h.place
  rw [requestedToken, blank] at accepted
  cases accepted
  cases starts
  exact ⟨rfl, rfl⟩

theorem asks_of_planReadings {plan : PagePlan ValuesQuery}
    (h : planReadings request now = .ok (window, plan)) :
    ∃ place, request.Asks now window place plan.pageSize ∧ plan.isFirstPage = place.isStart ∧
      plan.query = ⟨place, window.beginTime.instant, window.endTime.instant,
        rowLimit plan.pageSize⟩ := by
  obtain ⟨token, accepted, h⟩ := bind_eq_ok.1 h
  obtain ⟨resolved, found, h⟩ := bind_eq_ok.1 h
  obtain ⟨p, planned, h⟩ := bind_eq_ok.1 h
  cases h
  obtain ⟨place, starts, h⟩ := bind_eq_ok.1 (mapError_eq_ok.1 planned)
  cases h
  exact ⟨place, ⟨mapError_eq_ok.1 found, token, accepted, starts, rfl⟩, rfl, rfl⟩

namespace MemoryStore

variable {m : MemoryStore}

theorem requestedSeries_eq_ok {series : Series}
    (h : requestedSeries m.queries request = .ok series) : m.healthy = true ∧
      (m.seriesNamed (Text.nonBlank? request.office) request.name).head? = some series := by
  obtain ⟨found, looked, h⟩ := bind_eq_ok.1 h
  obtain ⟨healthy, answer⟩ := whenHealthy_eq_ok.1 (mapError_eq_ok.1 looked)
  cases found with
  | none => cases h
  | some s =>
    cases h
    exact ⟨healthy, Except.ok.inj answer⟩

/-- The series with an identifier in an office or in all, in the order in which they were added. -/
def matching (m : MemoryStore) (office : Option String) (id : String) : List Series :=
  m.registered.filter fun s => officePasses office s.office && Text.sameFold s.id id

theorem mem_seriesNamed {office : Option String} {id : String} {series : Series} :
    series ∈ m.seriesNamed office id ↔ series ∈ m.matching office id :=
  (CatalogKey.sortRows_perm _ _).mem_iff

/-- A requested series is found under its name, or one that differs from it in case only. -/
theorem exists_findSeries?_of_named {office : Option String} {id : String} {series : Series}
    (named : (m.seriesNamed office id).head? = some series) :
    series ∈ m.registered ∧ ∃ stored, m.findSeries? series.office series.id = some stored := by
  have there : series ∈ m.registered :=
    (List.mem_filter.1 (mem_seriesNamed.1 (List.mem_of_mem_head? named))).1
  refine ⟨there, ?_⟩
  obtain ⟨s, hs, rfl⟩ := List.mem_map.1 there
  exact Option.isSome_iff_exists.1 (List.find?_isSome.2 ⟨s, hs, by simp [StoredSeries.isNamed]⟩)

/-- The readings that are found for a query are those at its place in its window. -/
theorem readings_eq_ok {series : Series} {stored : StoredSeries} {unit : String} {q : ValuesQuery}
    {answer : List Reading} (found : m.findSeries? series.office series.id = some stored)
    (h : m.readings series unit q = .ok answer) :
    ∃ c, m.conversion? stored.series.storageUnit unit = some c ∧
      answer = (takeLimit q.limit (q.after.rest Instant.order Prod.fst
        (stored.values.between q.beginTime q.endTime))).map fun e => (readingOf e).convert c := by
  rw [readings, found] at h
  cases convertible : m.conversion? stored.series.storageUnit unit with
  | none => simp only [convertible, reduceCtorEq] at h
  | some c =>
    simp only [convertible, filter_admits_between] at h
    exact ⟨c, rfl, (Except.ok.inj h).symm⟩

/-- A page describes the first series in catalog order that the request names, and reads the first
one that was registered under the name of that. -/
theorem shown_of_retrieveReadings (h : retrieveReadings m.queries request now = .ok page) :
    ∃ window place series stored, request.Asks now window place page.pageSize ∧
      (m.seriesNamed (Text.nonBlank? request.office) request.name).head? = some series ∧
      page.Describes request.units series ∧
      m.findSeries? series.office series.id = some stored ∧
      m.Reads stored window place page := by
  obtain ⟨⟨window, plan⟩, planned, h⟩ := bind_eq_ok.1 h
  obtain ⟨series, named, h⟩ := bind_eq_ok.1 h
  obtain ⟨total, counted, h⟩ := bind_eq_ok.1 h
  obtain ⟨⟨rows, more⟩, read, h⟩ := bind_eq_ok.1 h
  cases h
  obtain ⟨place, asks, first, query⟩ := asks_of_planReadings planned
  obtain ⟨healthy, named⟩ := requestedSeries_eq_ok named
  obtain ⟨-, stored, found⟩ := exists_findSeries?_of_named named
  refine ⟨window, place, series, stored, asks, named, ⟨rfl, rfl, rfl, rfl⟩, found, ?_, ?_, ?_⟩
  · intro start
    rw [listingTotal, first, if_pos start] at counted
    obtain ⟨n, answer, rfl⟩ := map_eq_ok.1 (mapError_eq_ok.1 counted)
    have count := Except.ok.inj (whenHealthy_eq_ok.1 answer).2
    rw [← count, query, countReadings, found]
  · intro pos
    rw [pageReadings, if_pos pos] at read
    obtain ⟨all, answer, split⟩ := map_eq_ok.1 (mapError_eq_ok.1 read)
    obtain ⟨c, convertible, rfl⟩ := readings_eq_ok found (whenHealthy_eq_ok.1 answer).2
    rw [query, ← takeLimit_map, splitPage_takeLimit pos, ← List.map_take] at split
    have kept : List.map _ _ = rows := congrArg Prod.fst split
    refine ⟨c, convertible, ?_⟩
    rw [← kept]
    exact List.map_map
  · intro none
    rw [pageReadings, if_neg none] at read
    cases read
    rfl

/-! ## The series that is described and the one that is read -/

section Agreement

variable {office : Option String} {id : String} {series : Series} {stored : StoredSeries}

theorem listed_seriesNamed (m : MemoryStore) (office : Option String) (id : String) :
    CatalogKey.Listed Series.key (m.matching office id) (m.seriesNamed office id) :=
  CatalogKey.listed_of_sortedBy (Text.sortedBy_sortByColumns _ _)

/-- Of the series that a request names, the one that stands before all others is requested. -/
theorem head?_seriesNamed (named : series ∈ m.matching office id)
    (least : ∀ s ∈ m.matching office id, s ≠ series → s.key.isAfter series.key = true) :
    (m.seriesNamed office id).head? = some series := by
  have listed := mem_seriesNamed.2 named
  have sorted := (listed_seriesNamed m office id).ascending
  have there : ∀ s ∈ m.seriesNamed office id, s ∈ m.matching office id :=
    fun s => mem_seriesNamed.1
  generalize m.seriesNamed office id = all at listed sorted there
  cases all with
  | nil => cases listed
  | cons first rest =>
    rcases List.mem_cons.1 listed with rfl | later
    · rfl
    · have before := (List.pairwise_cons.1 sorted).1 series later
      by_contra other
      have after := least first (there first List.mem_cons_self) fun same =>
        other (congrArg some same)
      rw [before] at after
      cases after

/-- A requested series is the first that was registered with exactly its name. -/
theorem find?_key_of_named (named : (m.seriesNamed office id).head? = some series) :
    m.registered.find? (·.key = series.key) = some series := by
  -- rows with one key keep their order, so the first of them is the first that passes
  have first : (m.seriesNamed office id).find? (·.key = series.key) = some series := by
    obtain ⟨rest, all⟩ := List.head?_eq_some_iff.1 named
    rw [all]
    exact List.find?_cons_of_pos (decide_eq_true rfl)
  have passes := (List.mem_filter.1 (mem_seriesNamed.1 (List.mem_of_mem_head? named))).2
  rw [← List.head?_filter, (listed_seriesNamed m office id).stable, List.head?_filter, matching,
    List.find?_filter] at first
  rw [← first]
  congr 1
  funext s
  -- what has the key of the requested series is asked for as well
  have asked : s.key = series.key →
      (officePasses office s.office && Text.sameFold s.id id) = true := by
    intro same
    simp only [Series.key, CatalogKey.mk.injEq] at same
    rw [same.1, same.2, passes]
  simp only [decide_eq_true_eq, decide_eq_decide]
  exact ⟨fun same => ⟨asked same, same⟩, And.right⟩

/-- A series that is found under its own name is the first that was registered with it. -/
theorem find?_key_of_found {k : CatalogKey} (found : m.findSeries? k.office k.id = some stored)
    (exact : stored.series.key = k) : m.registered.find? (·.key = k) = some stored.series := by
  obtain ⟨-, front, behind, parts, others⟩ := List.find?_eq_some_iff_append.1 found
  rw [registered, List.find?_map]
  have first : m.series.find? ((fun s : Series => decide (s.key = k)) ∘ StoredSeries.series)
      = some stored := by
    refine List.find?_eq_some_iff_append.2 ⟨decide_eq_true exact, front, behind, parts, ?_⟩
    intro s hs
    have other : s.series.key ≠ k := by
      rintro rfl
      have apart := others s hs
      simp [StoredSeries.isNamed, Series.key] at apart
    simpa using other
  rw [first, Option.map_some]

/-- The series that a page reads is the one that it describes exactly if it has the very name. -/
theorem stored_eq_iff (named : (m.seriesNamed office id).head? = some series)
    (found : m.findSeries? series.office series.id = some stored) :
    stored.series = series ↔ stored.series.key = series.key := by
  refine ⟨congrArg Series.key, fun exact => ?_⟩
  have first := find?_key_of_found (k := series.key) found exact
  rw [find?_key_of_named named] at first
  exact (Option.some.inj first).symm

end Agreement

/-- A healthy store answers a first request with a page that describes the requested series and
reads the one that is found under its name. -/
theorem exists_firstPage (m : MemoryStore) (request : ReadingsRequest) (now : Instant)
    (series : Series) {stored : StoredSeries} {c : Conversion} (healthy : m.healthy = true)
    (named : series ∈ m.matching (Text.nonBlank? request.office) request.name)
    (least : ∀ s ∈ m.matching (Text.nonBlank? request.office) request.name,
      s ≠ series → s.key.isAfter series.key = true)
    (found : m.findSeries? series.office series.id = some stored)
    (convertible : m.conversion? stored.series.storageUnit (shownUnit request.units series)
      = some c)
    (resolved : TimeWindow.resolve request.beginText request.endText request.zoneName now
      = .ok window) (pos : 0 < request.pageSize) (first : request.cursor = none) :
    let entries := stored.values.between window.beginTime.instant window.endTime.instant
    ∃ page, retrieveReadings m.queries request now = .ok page ∧
      page.Describes request.units series ∧
      page.total = some (UInt64.ofNat entries.length) ∧
      page.readings = (entries.take request.pageSize.toInt.toNat).map (shownIn c) := by
  intro entries
  have requested := head?_seriesNamed named least
  obtain ⟨page, answer, shows⟩ := retrieveReadings_first request
    (serves_readings healthy window requested found convertible) resolved pos first
  obtain ⟨-, -, series', -, -, same, describes, -, -⟩ := shown_of_retrieveReadings answer
  obtain rfl : series = series' := Option.some.inj (requested.symm.trans same)
  refine ⟨page, answer, describes, shows.total, shows.entries.trans ?_⟩
  rw [portion, Resume.rest_start]

/-- For any store that some changes have made of an empty one, a page describes the first series in
catalog order that the request names, and it counts and shows the readings of the first one that was
registered under the name on the page, up to the case of letters.  That one has, for each instant, the last reading that was given
for the name, up to the case of letters, since it was registered.  Both are the same series exactly
if the first one that was registered has the very name on the page. -/
theorem read_eq_described_iff {changes : List Change}
    (answer : retrieveReadings (applyAll {} changes).queries request now = .ok page) :
    let m := applyAll {} changes
    ∃ described ∈ m.registered,
      (m.seriesNamed (Text.nonBlank? request.office) request.name).head? = some described ∧
      page.Describes request.units described ∧
      ∃ window place stored, request.Asks now window place page.pageSize ∧
        m.findSeries? page.office page.name = some stored ∧
        m.Reads stored window place page ∧
        (∃ before after, changes = before ++ .series stored.series :: after ∧
          (∀ c ∈ after, c ≠ .clearing) ∧
          (applyAll {} before).findSeries? page.office page.name = none ∧
          stored.HoldsLast (after.flatMap (Change.readingsFor page.office page.name))) ∧
        (stored.series = described ↔ stored.series.key = ⟨page.office, page.name⟩) := by
  intro m
  obtain ⟨window, place, series, stored, asks, named, describes, found, reads⟩ :=
    shown_of_retrieveReadings answer
  have agree := stored_eq_iff named found
  rw [← describes.office, ← describes.name] at found
  refine ⟨series, (exists_findSeries?_of_named named).1, named, describes, window, place, stored,
    asks, found, reads, holdsLast_of_found found, ?_⟩
  rw [describes.office, describes.name]
  exact agree

/-- A history in which two series are registered that may differ in case only.  Then each is given a
reading. -/
def namesakes (first second : String) : List Change :=
  [.series ⟨"SWT", first, "m", "m", "ft", 60⟩, .series ⟨"SWT", second, "m", "m", "ft", 15⟩,
    .readings "SWT" first [⟨.ofSecond 3600, none, some 1⟩],
    .readings "SWT" second [⟨.ofSecond 7200, none, some 2⟩]]

/-- A request for the day that ends at the second midnight of 1970. -/
def namesakeRequest : ReadingsRequest :=
  ⟨"ABC.Flow", some "SWT", some "SI", none, none, none, none, 10⟩

/-- If the name in capitals is registered first, its series is described and read. -/
theorem read_eq_described_iff_sample :
    let m := applyAll {} (namesakes "ABC.Flow" "abc.Flow")
    ∃ page, retrieveReadings m.queries namesakeRequest (.ofSecond 86400) = .ok page ∧
      page.intervalMinutes = 60 ∧ ∃ stored window place,
        m.findSeries? "SWT" "ABC.Flow" = some stored ∧ page.Describes (some "SI") stored.series ∧
        m.Reads stored window place page := by
  intro m
  obtain ⟨page, answer, describes, -⟩ := exists_firstPage m namesakeRequest (.ofSecond 86400)
    ⟨"SWT", "ABC.Flow", "m", "m", "ft", 60⟩ rfl (by decide) (by decide) rfl rfl rfl (by decide) rfl
  obtain ⟨described, -, -, same, window, place, stored, -, found, reads, -, agree⟩ :=
    read_eq_described_iff answer
  rw [describes.office, describes.name] at found agree
  have exact : stored.series.key = ⟨"SWT", "ABC.Flow"⟩ := by
    have first : m.findSeries? "SWT" "ABC.Flow" = some _ := rfl
    rw [Option.some.inj (found.symm.trans first)]
    rfl
  exact ⟨page, answer, describes.interval, stored, window, place, found, agree.2 exact ▸ same,
    reads⟩

/-- If the name in capitals is registered second, its series is described, and the other one is
read: two readings are counted and shown, and none is stored for the series that is described. -/
theorem reads_namesake :
    let m := applyAll {} (namesakes "abc.Flow" "ABC.Flow")
    ∃ page, retrieveReadings m.queries namesakeRequest (.ofSecond 86400) = .ok page ∧
      page.office = "SWT" ∧ page.name = "ABC.Flow" ∧ page.intervalMinutes = 15 ∧
      page.total = some 2 ∧
      page.readings.map ShownReading.time = [.ofSecond 3600, .ofSecond 7200] ∧
      ∀ stored ∈ m.series, stored.series.key = ⟨page.office, page.name⟩ →
        stored.values.entries = [] ∧ ∀ window, ¬ m.Reads stored window .start page := by
  intro m
  obtain ⟨page, answer, describes, total, readings⟩ := exists_firstPage m namesakeRequest
    (.ofSecond 86400) ⟨"SWT", "ABC.Flow", "m", "m", "ft", 15⟩ rfl (by decide) (by decide) rfl rfl
    rfl (by decide) rfl
  have two : page.total = some 2 := total
  refine ⟨page, answer, describes.office, describes.name, describes.interval, two, ?_, ?_⟩
  · rw [readings]
    rfl
  · intro stored there exact
    rw [describes.office, describes.name] at exact
    have none : stored.values.entries = [] := by
      rcases List.mem_pair.1 there with rfl | rfl
      · exact absurd exact (by decide)
      · rfl
    refine ⟨none, fun window reads => ?_⟩
    have counted := reads.counted rfl
    rw [two, Timeline.between, none, List.filter_nil] at counted
    exact absurd counted (by decide)

/-! ## The last readings -/

/-- What is shown is the last of some readings for each instant, converted and in order of time; a
reading without a quality is shown with the quality 5. -/
structure ShowsLast (c : Conversion) (given : List Reading) (shown : List ShownReading) : Prop where
  ascending : shown.Pairwise fun a b => a.time < b.time
  mem_iff : ∀ x, x ∈ shown ↔ ∃ r, lastAt? x.time given = some r ∧
    x = ⟨r.time, r.value.map c.apply, r.quality.getD 5⟩

section LastReadings

variable {stored : StoredSeries} {given : List Reading}

/-- The readings of a series in a window are the last ones that were given for the window. -/
theorem mem_between_iff (last : stored.HoldsLast given) {e : Instant × StoredValue} :
    e ∈ stored.values.between window.beginTime.instant window.endTime.instant ↔
      ∃ r, lastAt? e.1 (given.filter (window.contains ·.time)) = some r ∧
        e.2 = ⟨r.value, r.quality⟩ := by
  rw [mem_between, last e, lastAt?_filter]
  by_cases inside : window.contains e.1 = true <;> simp [inside]

/-- A series has as many readings in a window as there are instants for which some were given. -/
theorem length_between_eq (last : stored.HoldsLast given) (window : TimeWindow) :
    (stored.values.between window.beginTime.instant window.endTime.instant).length
      = ((given.filter (window.contains ·.time)).map Reading.time).dedup.length := by
  have once := (ascending_between stored window).nodup_keys
  have same := (List.perm_ext_iff_of_nodup once (List.nodup_dedup _)).2 fun t => by
    rw [List.mem_dedup, ← exists_lastAt?, List.mem_map]
    constructor
    · rintro ⟨e, he, rfl⟩
      obtain ⟨r, hr, -⟩ := (mem_between_iff last).1 he
      exact ⟨r, hr⟩
    · rintro ⟨r, hr⟩
      exact ⟨(t, ⟨r.value, r.quality⟩), (mem_between_iff last).2 ⟨r, hr, rfl⟩, rfl⟩
  rw [← same.length_eq, List.length_map]

/-- All readings of a window, converted, show the last ones that were given for it. -/
theorem showsLast_between (last : stored.HoldsLast given) (window : TimeWindow)
    (c : Conversion) :
    ShowsLast c (given.filter (window.contains ·.time)) ((stored.values.between
      window.beginTime.instant window.endTime.instant).map (shownIn c)) where
  ascending := List.pairwise_map.2 ((ascending_between stored window).imp of_decide_eq_true)
  mem_iff x := by
    rw [List.mem_map]
    constructor
    · rintro ⟨⟨t, v⟩, he, rfl⟩
      obtain ⟨r, hr, rfl⟩ := (mem_between_iff last).1 he
      refine ⟨r, hr, ?_⟩
      rw [time_of_lastAt? hr]
      rfl
    · rintro ⟨r, hr, shown⟩
      refine ⟨(x.time, ⟨r.value, r.quality⟩), (mem_between_iff last).2 ⟨r, hr, rfl⟩, ?_⟩
      rw [shown]
      rfl

/-- A first page that is long enough shows all readings of the window. -/
theorem Reads.readings_eq (reads : m.Reads stored window .start page) (pos : 0 < page.pageSize)
    (enough : (stored.values.between window.beginTime.instant window.endTime.instant).length
      ≤ page.pageSize.toInt.toNat) :
    ∃ c, m.conversion? stored.series.storageUnit page.units = some c ∧
      page.readings = (stored.values.between window.beginTime.instant
        window.endTime.instant).map (shownIn c) := by
  obtain ⟨c, convertible, shown⟩ := reads.shown pos
  rw [Resume.rest_start, List.take_of_length_le enough] at shown
  exact ⟨c, convertible, shown⟩

/-- If all series are apart, each is found under all spellings of its name. -/
theorem findSeries?_of_isNamed (apart : m.SeriesApart) (there : stored ∈ m.series)
    {office id : String} (named : stored.isNamed office id = true) :
    m.findSeries? office id = some stored := by
  obtain ⟨sameOffice, sameId⟩ := StoredSeries.isNamed_iff.1 named
  rw [← findSeries?_self apart there]
  simp only [findSeries?, StoredSeries.isNamed, Text.sameFold, sameOffice, sameId]

/-- If all series are apart, a first page that is long enough shows the last readings that were
given for the series that it describes. -/
theorem showsLast_of_retrieveReadings {changes : List Change}
    (apart : (applyAll {} changes).SeriesApart) (blank : Text.nonBlank? request.cursor = none)
    (pos : 0 < request.pageSize)
    (answer : retrieveReadings (applyAll {} changes).queries request now = .ok page) :
    ∃ s window before after,
      ((applyAll {} changes).seriesNamed (Text.nonBlank? request.office) request.name).head?
        = some s ∧
      page.Describes request.units s ∧
      TimeWindow.resolve request.beginText request.endText request.zoneName now = .ok window ∧
      changes = before ++ .series s :: after ∧ (∀ c ∈ after, c ≠ .clearing) ∧
      let given := (after.flatMap (Change.readingsFor s.office s.id)).filter
        (window.contains ·.time)
      ((given.map Reading.time).dedup.length ≤ request.pageSize.toInt.toNat →
        ∃ c, (applyAll {} changes).conversion? s.storageUnit page.units = some c ∧
          ShowsLast c given page.readings) := by
  obtain ⟨window, place, series, stored, asks, named, describes, found, reads⟩ :=
    shown_of_retrieveReadings answer
  obtain ⟨rfl, size⟩ := asks.of_blank blank
  -- the series that is described is in the store, and no other one has its name
  obtain ⟨own, there, rfl⟩ := List.mem_map.1 (exists_findSeries?_of_named named).1
  obtain rfl : own = stored := by
    rw [findSeries?_self apart there] at found
    exact Option.some.inj found
  obtain ⟨before, after, history, kept, -, last⟩ := holdsLast_of_found found
  refine ⟨own.series, window, before, after, named, describes, asks.window, history, kept, ?_⟩
  intro given enough
  rw [← length_between_eq last, ← size] at enough
  obtain ⟨c, convertible, shown⟩ := reads.readings_eq (size ▸ pos) enough
  exact ⟨c, convertible, shown ▸ showsLast_between last window c⟩

end LastReadings

/-- For any store that some changes have made of an empty one, in which all series are apart.  A
page without a cursor describes the first series in catalog order that the request names.  If it is
long enough for the readings of that series in the window, it shows the last reading for each instant
in it that was given for the series, under any spelling, since it was registered.  Readings for a
name that no series has are refused and change nothing; others are taken by the one series that has
the name, and by no other. -/
theorem readings_lastWritten {changes : List Change} (apart : (applyAll {} changes).SeriesApart) :
    let m := applyAll {} changes
    (∀ request now page, Text.nonBlank? request.cursor = none → 0 < request.pageSize →
      retrieveReadings m.queries request now = .ok page →
      ∃ s window before after,
        (m.seriesNamed (Text.nonBlank? request.office) request.name).head? = some s ∧
        page.Describes request.units s ∧
        TimeWindow.resolve request.beginText request.endText request.zoneName now = .ok window ∧
        changes = before ++ .series s :: after ∧ (∀ c ∈ after, c ≠ .clearing) ∧
        let given := (after.flatMap (Change.readingsFor s.office s.id)).filter
          (window.contains ·.time)
        ((given.map Reading.time).dedup.length ≤ request.pageSize.toInt.toNat →
          ∃ c, m.conversion? s.storageUnit page.units = some c ∧
            ShowsLast c given page.readings)) ∧
      (∀ office id readings, (∀ s ∈ m.registered, s.isNamed office id = false) →
        ∃ e, e.kind = .notFound ∧ m.addReadings office id readings = .error e ∧
          m.apply (.readings office id readings) = m) ∧
      ∀ office id readings, ∀ stored ∈ m.series, stored.isNamed office id = true →
        ∃ front behind, m.series = front ++ stored :: behind ∧
          let changed := { m with series := front ++ stored.addReadings readings :: behind }
          m.addReadings office id readings = .ok (changed, readings.length) ∧
            m.apply (.readings office id readings) = changed := by
  refine ⟨fun request now page blank pos => showsLast_of_retrieveReadings apart blank pos, ?_, ?_⟩
  · intro office id readings unknown
    have missing : (applyAll {} changes).findSeries? office id = none :=
      List.find?_eq_none.2 fun s hs => by
        simpa [StoredSeries.isNamed_eq] using unknown s.series (List.mem_map_of_mem hs)
    exact ⟨missingSeries office id, rfl, addReadings_of_missing missing readings⟩
  · intro office id readings stored there named
    exact addReadings_of_found (findSeries?_of_isNamed apart there named) readings

/-- A history in which readings are given too early, given again, and given while the store is
unhealthy. -/
def rewritings : List Change :=
  [.series ⟨"SWT", "KEYS.Elev", "ft", "m", "ft", 15⟩, .clearing,
    .readings "SWT" "KEYS.Elev" [⟨.ofSecond 1800, none, none⟩],
    .series ⟨"SWT", "KEYS.Elev", "m", "m", "ft", 60⟩,
    .readings "swt" "keys.elev" [⟨.ofSecond 7200, some 2, none⟩, ⟨.ofSecond 3600, none, some 3⟩],
    .health false, .readings "SWT" "KEYS.ELEV" [⟨.ofSecond 3600, none, none⟩], .health true]

/-- Of the readings that were given since the series was registered the last ones are shown. -/
theorem readings_lastWritten_sample :
    ∃ page, retrieveReadings (applyAll {} rewritings).queries
        ⟨"keys.elev", some "swt", some "si", none, none, none, none, 2⟩ (.ofSecond 86400)
          = .ok page ∧
      ShowsLast .identity [⟨.ofSecond 7200, some 2, none⟩, ⟨.ofSecond 3600, none, some 3⟩,
        ⟨.ofSecond 3600, none, none⟩] page.readings := by
  have apart : (applyAll {} rewritings).SeriesApart := List.pairwise_singleton _ _
  obtain ⟨page, answer, describes, -⟩ := exists_firstPage (applyAll {} rewritings)
    ⟨"keys.elev", some "swt", some "si", none, none, none, none, 2⟩ (.ofSecond 86400)
    ⟨"SWT", "KEYS.Elev", "m", "m", "ft", 60⟩ rfl (by decide) (by decide) rfl rfl rfl (by decide) rfl
  obtain ⟨s, window, before, after, -, same, resolved, history, kept, shown⟩ :=
    (readings_lastWritten apart).1 _ _ page rfl (by decide) answer
  refine ⟨page, answer, ?_⟩
  -- the registration after the clearing is the only one that nothing cleared
  have late : s = ⟨"SWT", "KEYS.Elev", "m", "m", "ft", 60⟩ ∧ after = rewritings.drop 4 := by
    have place : rewritings[before.length]? = some (.series s) := by
      rw [history, List.getElem?_append_right (Nat.le_refl _), Nat.sub_self]
      rfl
    have rest : rewritings.drop (before.length + 1) = after := by
      rw [history]
      simp
    generalize before.length = n at place rest
    subst rest
    match n with
    | 0 => exact absurd rfl (kept .clearing List.mem_cons_self)
    | 3 =>
      cases place
      exact ⟨rfl, rfl⟩
    | 1 | 2 | 4 | 5 | 6 | 7 => cases place
    | n + 8 => cases place
  obtain ⟨rfl, rfl⟩ := late
  cases resolved
  obtain ⟨c, convertible, last⟩ := shown (by decide)
  rw [same.units] at convertible
  cases convertible
  exact last

end MemoryStore

end HydroArchive
