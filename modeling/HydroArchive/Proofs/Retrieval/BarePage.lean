import HydroArchive.Proofs.Retrieval.ReadingsPage
import HydroArchive.Proofs.Store.Readings

/-!
# Pages without readings

A page size of zero or less asks for a series without its readings.  The store is then asked for a
count only, and not for readings that might have to be converted.  So the page is there whenever one
with readings is, and it says the same of the series and of the window.

The count of a window and the readings in it come from two questions to the store.  They agree: a
page with readings has fewer of them than were counted exactly if there is a page after it.

## Main definitions

* `ReadingsPage.DrawnFrom` — the stored series that the readings on a page are taken from.
* `firstPlan`, `firstPage` — the plan and the page at the start of a window.

## Main statements

* `retrieveReadings_eq_ok_iff` — without a cursor, the answer is the first page.
* `isSome_nextToken` — there is a cursor of the next page if there are more rows.
* `length_kept` — what is kept is shorter than what there is if more rows are left.
* `MemoryStore.kept_of_pageReadings` — the readings that a first page keeps of a stored series.
* `MemoryStore.barePage_agrees` — the page without readings, and the total of the page with them.
-/

namespace HydroArchive

/-- The readings on a page are the first ones of a stored series in the window of the page, shown in
the units of the page.  The series has the name on the page, up to the case of letters. -/
structure ReadingsPage.DrawnFrom (page : ReadingsPage) (m : MemoryStore) (stored : StoredSeries) :
    Prop where
  there : stored ∈ m.series
  named : stored.isNamed page.office page.name = true
  shown : ∃ c, m.conversion? stored.series.storageUnit page.units = some c ∧
    page.readings = ((stored.values.between page.beginTime.instant page.endTime.instant).take
      page.pageSize.toInt.toNat).map (shownIn c)

/-! ## First pages -/

/-- The plan of the page at the start of a window. -/
def firstPlan (window : TimeWindow) (size : Int32) : PagePlan ValuesQuery where
  query := ⟨.start, window.beginTime.instant, window.endTime.instant, rowLimit size⟩
  isFirstPage := true
  knownTotal := none
  pageSize := size

/-- The page at the start of a window, from what the store answers: the series, the number of its
readings in the window, and the readings that are kept, with the mark whether there are more. -/
def firstPage (request : ReadingsRequest) (window : TimeWindow) (series : Series) (count : Nat)
    (kept : List Reading × Bool) : ReadingsPage where
  cursor := none
  next := (nextToken .values (kept.1.getLast?.map fun r => instantKey r.time) kept.2
    request.pageSize (some (UInt64.ofNat count))).map PageToken.encode
  pageSize := request.pageSize
  total := some (UInt64.ofNat count)
  name := series.id
  office := series.office
  beginTime := ⟨window.beginTime.instant, window.zone⟩
  endTime := ⟨window.endTime.instant, window.zone⟩
  zone := window.zone
  units := shownUnit request.units series
  intervalMinutes := series.intervalMinutes
  readings := kept.1.map Reading.shown

variable {request : ReadingsRequest} {now : Instant} {window : TimeWindow} {page : ReadingsPage}

theorem planReadings_of_blank {planned : TimeWindow × PagePlan ValuesQuery}
    (blank : Text.nonBlank? request.cursor = none) :
    planReadings request now = .ok planned ↔
      ∃ window, TimeWindow.resolve request.beginText request.endText request.zoneName now
          = .ok window ∧ planned = (window, firstPlan window request.pageSize) := by
  have token : requestedToken request.cursor .values = .ok none := by
    rw [requestedToken, blank]
  rw [planReadings, token]
  cases TimeWindow.resolve request.beginText request.endText request.zoneName now with
  | error e => simp [bind, Except.bind, Except.mapError]
  | ok window =>
    have plan : (do
        let plan ← (ValuesQuery.plan none window request.pageSize).mapError
          RetrievalError.malformedCursor
        return (window, plan)) = .ok (window, firstPlan window request.pageSize) := rfl
    simp only [bind, Except.bind, Except.mapError] at plan ⊢
    simp [plan, eq_comm]

/-- Without a cursor, the answer is the first page. -/
theorem retrieveReadings_eq_ok_iff {store : Queries}
    (blank : Text.nonBlank? request.cursor = none) :
    retrieveReadings store request now = .ok page ↔
      ∃ window series count kept,
        TimeWindow.resolve request.beginText request.endText request.zoneName now = .ok window ∧
        requestedSeries store request = .ok series ∧
        store.countReadings series window.beginTime.instant window.endTime.instant = .ok count ∧
        pageReadings store series (shownUnit request.units series)
          (firstPlan window request.pageSize) = .ok kept ∧
        page = firstPage request window series count kept := by
  constructor
  · intro answer
    obtain ⟨planned, understood, answer⟩ := bind_eq_ok.1 answer
    obtain ⟨window, resolved, rfl⟩ := (planReadings_of_blank blank).1 understood
    obtain ⟨series, named, answer⟩ := bind_eq_ok.1 answer
    obtain ⟨total, counted, answer⟩ := bind_eq_ok.1 answer
    obtain ⟨kept, read, answer⟩ := bind_eq_ok.1 answer
    obtain ⟨count, asked, rfl⟩ := map_eq_ok.1 (mapError_eq_ok.1 counted)
    refine ⟨window, series, count, kept, resolved, named, asked, read, ?_⟩
    rw [← Except.ok.inj answer, blank]
    rfl
  · rintro ⟨window, series, count, kept, resolved, named, counted, read, rfl⟩
    have understood := (planReadings_of_blank blank).2 ⟨window, resolved, rfl⟩
    have total : listingTotal (firstPlan window request.pageSize)
        (store.countReadings series window.beginTime.instant window.endTime.instant)
          = .ok (some (UInt64.ofNat count)) :=
      mapError_eq_ok.2 (map_eq_ok.2 ⟨count, counted, rfl⟩)
    refine bind_eq_ok.2 ⟨_, understood, bind_eq_ok.2 ⟨series, named, bind_eq_ok.2
      ⟨_, total, bind_eq_ok.2 ⟨kept, read, ?_⟩⟩⟩⟩
    rw [blank]
    rfl

/-- If a page with more rows behind it has a last row, it has a cursor of the next page exactly if
there are more rows. -/
theorem isSome_nextToken {α : Type} {rows : List α} {more : Bool} (filled : more = true → rows ≠ [])
    (kind : PageKind) (key : α → String) (size : Int32) (total : Option UInt64) :
    (nextToken kind (rows.getLast?.map key) more size total).isSome = more := by
  cases more with
  | false => rfl
  | true => simpa [nextToken] using filled rfl

/-- What is kept of some readings is shorter than they are exactly if more are left, and then it is
not empty. -/
theorem length_kept {kept : List Reading × Bool} {c : Conversion} {n : Nat}
    {entries : List (Instant × StoredValue)} (pos : 0 < n)
    (shown : kept.1.map Reading.shown = (entries.take n).map (shownIn c))
    (more : kept.2 = decide (n < entries.length)) :
    kept.1.length ≤ entries.length ∧ (kept.1.length < entries.length ↔ kept.2 = true) ∧
      (kept.2 = true → kept.1 ≠ []) := by
  have length : kept.1.length = min n entries.length := by
    simpa using congrArg List.length shown
  rw [more, decide_eq_true_iff, ← List.length_pos_iff, length]
  omega

namespace MemoryStore

variable {m : MemoryStore}

/-- The readings that a first page keeps are the first ones of the window, and more are left if the
window has more. -/
theorem kept_of_pageReadings {series : Series} {stored : StoredSeries} {unit : String}
    {size : Int32} {kept : List Reading × Bool} (pos : 0 < size)
    (found : m.findSeries? series.office series.id = some stored)
    (read : pageReadings m.queries series unit (firstPlan window size) = .ok kept) :
    let entries := stored.values.between window.beginTime.instant window.endTime.instant
    ∃ c, m.conversion? stored.series.storageUnit unit = some c ∧
      kept.1.map Reading.shown = (entries.take size.toInt.toNat).map (shownIn c) ∧
      kept.2 = decide (size.toInt.toNat < entries.length) := by
  have own : 0 < (firstPlan window size).pageSize := pos
  rw [pageReadings, if_pos own] at read
  obtain ⟨all, asked, split⟩ := map_eq_ok.1 (mapError_eq_ok.1 read)
  obtain ⟨c, convertible, rfl⟩ := readings_eq_ok found (whenHealthy_eq_ok.1 asked).2
  simp only [firstPlan, Resume.rest_start, ← takeLimit_map, splitPage_takeLimit pos] at split
  refine ⟨c, convertible, ?_, ?_⟩
  · rw [← split, ← List.map_take, List.map_map]
    rfl
  · rw [← split, List.length_map]

/-- The page that a request without a cursor gets says the same with and without readings: a page
size of zero or less changes nothing but the page size, the readings and the cursor of the next page.
The total is the number of the readings in the window of the series that the readings on the page are
taken from.  There are never more readings on the page, and fewer exactly if there is a page after
it. -/
theorem barePage_agrees (blank : Text.nonBlank? request.cursor = none)
    (pos : 0 < request.pageSize) (answer : retrieveReadings m.queries request now = .ok page) :
    (∀ size : Int32, size ≤ 0 →
      retrieveReadings m.queries { request with pageSize := size } now
        = .ok { page with pageSize := size, next := none, readings := [] }) ∧
      ∃ stored, page.DrawnFrom m stored ∧
        let count := (stored.values.between page.beginTime.instant page.endTime.instant).length
        page.total = some (UInt64.ofNat count) ∧
          (count < UInt64.size → page.total.map UInt64.toNat = some count) ∧
          page.readings.length ≤ count ∧
          (page.readings.length < count ↔ page.next.isSome = true) := by
  obtain ⟨window, series, count, kept, resolved, named, counted, read, rfl⟩ :=
    (retrieveReadings_eq_ok_iff blank).1 answer
  refine ⟨fun size notPos => ?_, ?_⟩
  · have blank' : Text.nonBlank? { request with pageSize := size }.cursor = none := blank
    have bare : pageReadings m.queries series (shownUnit request.units series)
        (firstPlan window size) = .ok ([], false) := if_neg (Int32.not_lt.2 notPos)
    exact (retrieveReadings_eq_ok_iff blank').2
      ⟨window, series, count, ([], false), resolved, named, counted, bare, rfl⟩
  · obtain ⟨-, first⟩ := requestedSeries_eq_ok named
    obtain ⟨-, stored, found⟩ := exists_findSeries?_of_named first
    obtain ⟨c, convertible, shown, more⟩ := kept_of_pageReadings pos found read
    obtain ⟨own, -⟩ := List.find?_eq_some_iff_append.1 found
    have answered := Except.ok.inj (whenHealthy_eq_ok.1 counted).2
    simp only [countReadings, found] at answered
    subst answered
    obtain ⟨most, shorter, filled⟩ := length_kept (toNat_pos pos) shown more
    have length : (firstPage request window series
        (stored.values.between window.beginTime.instant window.endTime.instant).length
        kept).readings.length = kept.1.length := List.length_map _
    refine ⟨stored, ⟨List.mem_of_find?_eq_some found, own, c, convertible, shown⟩, rfl, ?_, ?_, ?_⟩
    · intro small
      exact congrArg some (UInt64.toNat_ofNat_of_lt' small)
    · rw [length]
      exact most
    · rw [length, firstPage, Option.isSome_map, isSome_nextToken filled]
      exact shorter

/-- Of the three readings of a day a page of two is followed by another page, and a page of size zero
counts the same three. -/
theorem barePage_agrees_sample :
    let m : MemoryStore := { series := [nightReadings] }
    let request : ReadingsRequest :=
      ⟨"keys.elev", none, some "SI", none, none, none, none, 2⟩
    Text.nonBlank? request.cursor = none ∧ 0 < request.pageSize ∧
      ∃ page, retrieveReadings m.queries request (hourOfJune 24) = .ok page ∧
        page.total = some 3 ∧ page.readings.length = 2 ∧ page.next.isSome = true ∧
        retrieveReadings m.queries { request with pageSize := 0 } (hourOfJune 24)
          = .ok { page with pageSize := 0, next := none, readings := [] } := by
  intro m request
  have blank : Text.nonBlank? request.cursor = none := rfl
  have pos : 0 < request.pageSize := by decide
  obtain ⟨page, answer, -, total, readings⟩ := exists_firstPage m request (hourOfJune 24)
    nightReadings.series rfl (by decide) (by decide) rfl rfl rfl (by decide) rfl
  have three : page.total = some 3 := total
  have two : page.readings.length = 2 := congrArg List.length readings
  obtain ⟨bare, stored, drawn, -, exact, -, more⟩ := barePage_agrees blank pos answer
  obtain rfl : stored = nightReadings := List.mem_singleton.1 drawn.there
  have few : (nightReadings.values.between page.beginTime.instant page.endTime.instant).length ≤ 3 :=
    List.length_filter_le ..
  have count := Option.some.inj ((exact (few.trans_lt (by decide))).symm.trans
    (congrArg (Option.map UInt64.toNat) three))
  have left : page.readings.length
      < (nightReadings.values.between page.beginTime.instant page.endTime.instant).length := by
    rw [two, count]
    decide
  exact ⟨blank, pos, page, answer, three, two, more.1 left, bare 0 (Int32.le_refl 0)⟩

end MemoryStore

end HydroArchive
