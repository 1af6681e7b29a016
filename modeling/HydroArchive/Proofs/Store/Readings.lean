import HydroArchive.Proofs.Page.InstantKey
import HydroArchive.Proofs.Page.Walk
import HydroArchive.Store.Memory

/-!
# Readings of the store in memory

A query says which readings it admits.  The store in memory only looks for them in the window of the
query, and a query for a later page admits every reading after its resume key, also one before the
window.  Such a reading is passed over.  This happens when the window moves on between two pages, as
a window of the last day does, and a reading lies between the end of a page and the new window.

## Main definitions

* `StoredSeries.admitted` — the readings that a query asks for.

## Main statements

* `MemoryStore.readings_eq_admitted` — the pages that miss no reading.
* `MemoryStore.readings_eq_admitted_iff` — when exactly the store answers with what was asked for.
-/

namespace HydroArchive

/-- The readings that a query asks for: those that it admits, ascending in time and up to its limit,
each converted. -/
def StoredSeries.admitted (stored : StoredSeries) (q : ValuesQuery) (c : Conversion) :
    List Reading :=
  (takeLimit q.limit (stored.values.entries.filter fun e => q.admits e.1)).map fun e =>
    (MemoryStore.readingOf e).convert c

namespace ValuesQuery

theorem le_endTime_of_admits {q : ValuesQuery} {t : Instant} (h : q.admits t = true) :
    t ≤ q.endTime := by
  simp only [admits, Bool.and_eq_true, decide_eq_true_eq] at h
  exact h.2

/-- A first page, and a page that starts in the window or after it, admits no reading before the
window. -/
theorem beginTime_le_of_admits {q : ValuesQuery}
    (place : ∀ key, q.after = .after key → q.beginTime ≤ key) {t : Instant}
    (h : q.admits t = true) : q.beginTime ≤ t := by
  simp only [admits, Bool.and_eq_true, decide_eq_true_eq] at h
  cases start : q.after with
  | start =>
    rw [start] at h
    simpa using h.1
  | after key =>
    rw [start] at h
    have behind : key < t := by simpa using h.1
    exact Instant.le_trans (place key start) (Instant.le_of_lt behind)

end ValuesQuery

namespace MemoryStore

variable {m : MemoryStore} {series : Series} {unit : String} {stored : StoredSeries}
  {c : Conversion}

/-- The readings that are looked at are the admitted ones from the begin of the window on. -/
theorem filter_between (l : Timeline StoredValue) (q : ValuesQuery) :
    (l.between q.beginTime q.endTime).filter (fun e => q.admits e.1)
      = (l.entries.filter fun e => q.admits e.1).filter fun e => decide (q.beginTime ≤ e.1) := by
  rw [Timeline.between, List.filter_filter, List.filter_filter]
  refine List.filter_congr fun e _ => ?_
  cases admitted : q.admits e.1 with
  | false => simp
  | true => simp [ValuesQuery.le_endTime_of_admits admitted]

/-- What a healthy store answers for a series that it has. -/
theorem readings_of_found (healthy : m.healthy = true)
    (found : m.findSeries? series.office series.id = some stored)
    (convertible : m.conversion? stored.series.storageUnit unit = some c) (q : ValuesQuery) :
    m.queries.readings series unit q = .ok ((takeLimit q.limit
      ((stored.values.entries.filter fun e => q.admits e.1).filter fun e =>
        decide (q.beginTime ≤ e.1))).map fun e => (readingOf e).convert c) := by
  simp only [queries, whenHealthy_of_healthy healthy, readings, found, convertible, filter_between]

/-- The store answers with the readings that are asked for, if none of them lies before the
window. -/
theorem readings_eq_of_within (healthy : m.healthy = true)
    (found : m.findSeries? series.office series.id = some stored)
    (convertible : m.conversion? stored.series.storageUnit unit = some c) {q : ValuesQuery}
    (within : ∀ e ∈ stored.values.entries, q.admits e.1 = true → q.beginTime ≤ e.1) :
    m.queries.readings series unit q = .ok (stored.admitted q c) := by
  have all : (stored.values.entries.filter fun e => q.admits e.1).filter
      (fun e => decide (q.beginTime ≤ e.1))
        = stored.values.entries.filter fun e => q.admits e.1 := by
    rw [List.filter_eq_self]
    intro e he
    obtain ⟨stored, admitted⟩ := List.mem_filter.1 he
    exact decide_eq_true (within e stored admitted)
  rw [readings_of_found healthy found convertible, all]
  rfl

/-- The first page misses no reading, and neither does a later page that starts in the window. -/
theorem readings_eq_admitted (healthy : m.healthy = true)
    (found : m.findSeries? series.office series.id = some stored)
    (convertible : m.conversion? stored.series.storageUnit unit = some c) {q : ValuesQuery}
    (place : ∀ key, q.after = .after key → q.beginTime ≤ key) :
    m.queries.readings series unit q = .ok (stored.admitted q c) :=
  readings_eq_of_within healthy found convertible fun _ _ =>
    ValuesQuery.beginTime_le_of_admits place

/-- The earliest row is within every limit but zero. -/
theorem mem_takeLimit_cons {α : Type} {limit : Option Nat} (some : limit ≠ some 0) (a : α)
    (rows : List α) : a ∈ takeLimit limit (a :: rows) := by
  cases limit with
  | none => exact List.mem_cons_self
  | some n =>
    cases n with
    | zero => exact absurd rfl some
    | succ n => exact List.mem_cons_self

/-- Unless nothing is asked for, the earliest reading that is admitted is among what is asked for. -/
theorem exists_mem_admitted_le {q : ValuesQuery} (some : q.limit ≠ some 0)
    {e : Instant × StoredValue} (he : e ∈ stored.values.entries) (admitted : q.admits e.1 = true) :
    ∃ r ∈ stored.admitted q c, r.time ≤ e.1 := by
  have sorted := stored.values.ascending.filter fun e => q.admits e.1
  have mem : e ∈ stored.values.entries.filter fun e => q.admits e.1 :=
    List.mem_filter.2 ⟨he, admitted⟩
  obtain ⟨first, rest, all⟩ := List.exists_cons_of_ne_nil (List.ne_nil_of_mem mem)
  rw [all] at sorted mem
  refine ⟨(readingOf first).convert c, ?_, ?_⟩
  · rw [StoredSeries.admitted, all]
    exact List.mem_map_of_mem (mem_takeLimit_cons some first rest)
  · change first.1 ≤ e.1
    rcases List.mem_cons.1 mem with rfl | later
    · exact Instant.le_refl e.1
    · exact Instant.le_of_lt ((List.pairwise_cons.1 sorted).1 e later)

/-- No reading of an answer lies before the window. -/
theorem beginTime_le_of_mem_readings (healthy : m.healthy = true)
    (found : m.findSeries? series.office series.id = some stored)
    (convertible : m.conversion? stored.series.storageUnit unit = some c) {q : ValuesQuery}
    {answer : List Reading} (answered : m.queries.readings series unit q = .ok answer) :
    ∀ r ∈ answer, q.beginTime ≤ r.time := by
  rw [readings_of_found healthy found convertible, Except.ok.injEq] at answered
  subst answered
  intro r hr
  obtain ⟨e, he, rfl⟩ := List.mem_map.1 hr
  have kept := (takeLimit_sublist q.limit _).subset he
  exact of_decide_eq_true (List.mem_filter.1 kept).2

/-- The store answers with the readings that are asked for exactly if none of them lies before the
window of the query.  (Nothing is missed where nothing is asked for.) -/
theorem readings_eq_admitted_iff (healthy : m.healthy = true)
    (found : m.findSeries? series.office series.id = some stored)
    (convertible : m.conversion? stored.series.storageUnit unit = some c) (q : ValuesQuery) :
    m.queries.readings series unit q = .ok (stored.admitted q c) ↔
      q.limit = some 0 ∨
        ∀ e ∈ stored.values.entries, q.admits e.1 = true → q.beginTime ≤ e.1 := by
  constructor
  · intro answered
    by_cases none : q.limit = some 0
    · exact Or.inl none
    · refine Or.inr ?_
      intro e he admitted
      -- the earliest reading that is asked for is an answer, so it lies in the window
      obtain ⟨r, hr, early⟩ := exists_mem_admitted_le (c := c) none he admitted
      have inside := beginTime_le_of_mem_readings healthy found convertible answered r hr
      exact Instant.le_trans inside early
  · rintro (none | within)
    · rw [readings_of_found healthy found convertible, StoredSeries.admitted, none]
      rfl
    · exact readings_eq_of_within healthy found convertible within

/-- An hour of 10 June 2021, counted on into the next day. -/
def hourOfJune (hour : Int) : Instant := .ofSecond (1623283200 + hour * 3600)

/-- A series with readings at midnight, at one and at five o'clock. -/
def nightReadings : StoredSeries :=
  StoredSeries.addReadings ⟨⟨"SWT", "KEYS.Elev", "m", "m", "ft", 60⟩, .empty⟩
    [⟨hourOfJune 0, none, none⟩, ⟨hourOfJune 1, none, none⟩, ⟨hourOfJune 5, none, none⟩]

/-- The query of the page after midnight, in a window of one day. -/
def afterMidnight (beginHour : Int) : ValuesQuery :=
  ⟨.after (hourOfJune 0), hourOfJune beginHour, hourOfJune (beginHour + 24), some 2⟩

/-- In a window that begins at one o'clock nothing is missed, although midnight lies before it. -/
theorem readings_eq_admitted_iff_sample :
    (queries { series := [nightReadings] }).readings nightReadings.series "m" (afterMidnight 1)
      = .ok (nightReadings.admitted (afterMidnight 1) .identity) := by
  have times : ∀ t ∈ nightReadings.values.entries.map Prod.fst,
      (afterMidnight 1).admits t = true → hourOfJune 1 ≤ t := by decide
  refine (readings_eq_admitted_iff rfl rfl rfl (afterMidnight 1)).2 (Or.inr ?_)
  intro e he admitted
  exact times e.1 (List.mem_map_of_mem he) admitted

/-- In a window that begins at three o'clock the reading of one o'clock is passed over. -/
theorem readings_passed_over :
    (afterMidnight 3).beginTime ≤ (afterMidnight 3).endTime ∧
      ((queries { series := [nightReadings] }).readings nightReadings.series "m"
        (afterMidnight 3)).map (List.map Reading.time) = .ok [hourOfJune 5] ∧
      (nightReadings.admitted (afterMidnight 3) .identity).map Reading.time
        = [hourOfJune 1, hourOfJune 5] := by
  exact ⟨by decide, rfl, rfl⟩

end MemoryStore

end HydroArchive
