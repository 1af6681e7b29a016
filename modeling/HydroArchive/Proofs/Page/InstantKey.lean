import HydroArchive.Page.Query
import HydroArchive.Proofs.Page.Cursor
import HydroArchive.Proofs.Page.Walk
import HydroArchive.Store.Timeline

/-!
# Resume keys of readings

The resume key of a reading is its time in milliseconds, rounded down, while times are kept to the
nanosecond.  So the page after a reading need not start right behind it.  A reading between two
milliseconds is handed out again.  A leap second has the milliseconds of the second that follows, so
what comes between is skipped.

## Main definitions

* `Instant.order` — the order of a series.
* `Instant.resumed` — where the page after a reading starts.
* `Instant.WholeMillis` — the times that resume keys carry unchanged.

## Main statements

* `plan_instantKey` — the plan of the page after a reading.
* `resumes_iff` — when that page starts right behind the reading.
-/

namespace HydroArchive

namespace Instant

def order : KeyOrder Instant where
  before a b := decide (a < b)
  irrefl a := decide_eq_false (lt_irrefl a)
  trans h k := decide_eq_true (lt_trans (of_decide_eq_true h) (of_decide_eq_true k))

/-- The instant that is read from the resume key of a reading: the milliseconds are rounded down,
and a leap second becomes the second that follows. -/
def resumed (t : Instant) : Instant where
  second := t.second + (t.nano / nanosPerSecond : Nat)
  nano := t.nano % nanosPerSecond / 1000000 * 1000000
  nano_lt := by simp only [nanosPerSecond]; omega

/-- The instants that a resume key carries unchanged: those of the calendar that are a whole number
of milliseconds and in no leap second. -/
structure WholeMillis (t : Instant) : Prop where
  covered : t.inRange = true
  ordinary : t.isLeap = false
  whole : t.nano % 1000000 = 0

instance (t : Instant) : Decidable t.WholeMillis :=
  decidable_of_iff (t.inRange = true ∧ t.isLeap = false ∧ t.nano % 1000000 = 0)
    ⟨fun h => ⟨h.1, h.2.1, h.2.2⟩, fun h => ⟨h.covered, h.ordinary, h.whole⟩⟩

/-- The start of a second. -/
def ofSecond (second : Int) : Instant := ⟨second, 0, by decide⟩

theorem ext_iff {a b : Instant} : a = b ↔ a.second = b.second ∧ a.nano = b.nano := by
  cases a
  cases b
  simp

theorem inRange_iff {t : Instant} :
    t.inRange = true ↔ firstSecond ≤ t.second ∧ t.second ≤ lastSecond := by
  simp [inRange]

theorem isLeap_iff {t : Instant} : t.isLeap = true ↔ nanosPerSecond ≤ t.nano := by
  simp [isLeap]

theorem resumed_eq_iff {t : Instant} :
    t.resumed = t ↔ t.isLeap = false ∧ t.nano % 1000000 = 0 := by
  rw [← Bool.not_eq_true, isLeap_iff, ext_iff]
  simp only [resumed, nanosPerSecond]
  omega

theorem WholeMillis.resumed_eq {t : Instant} (h : t.WholeMillis) : t.resumed = t :=
  resumed_eq_iff.2 ⟨h.ordinary, h.whole⟩

/-- Reading milliseconds undoes writing them, up to what they leave out. -/
@[simp] theorem ofMillis?_millis (t : Instant) :
    ofMillis? t.millis = if t.resumed.inRange then some t.resumed else none := by
  have same : (⟨t.millis / 1000, (t.millis % 1000).toNat * 1000000, by
      simp only [nanosPerSecond]; omega⟩ : Instant) = t.resumed := by
    rw [ext_iff]
    simp only [resumed, millis, nanosPerSecond]
    omega
  simp only [ofMillis?, same]

end Instant

/-! ## Reading a resume key -/

@[simp] theorem toList_instantKey (t : Instant) : (instantKey t).toList = Text.integerText t.millis :=
  String.toList_ofList

theorem instantKey_ne_empty (t : Instant) : instantKey t ≠ "" := by
  intro he
  exact Text.integerText_ne_nil t.millis
    ((toList_instantKey t).symm.trans (congrArg String.toList he))

theorem millis_bounds {t : Instant} (covered : t.inRange = true) :
    -100000000000000000 < t.millis ∧ t.millis < 100000000000000000 := by
  obtain ⟨low, high⟩ := Instant.inRange_iff.1 covered
  have := t.nano_lt
  simp only [Instant.millis, Instant.firstSecond, Instant.lastSecond, nanosPerSecond] at *
  omega

/-- What is read from the resume key of a reading. -/
theorem ofInstantKey_instantKey {t : Instant} (covered : t.inRange = true) :
    ofInstantKey (instantKey t) =
      if t.resumed.inRange then .ok t.resumed else .error (.invalidResumeKey (instantKey t)) := by
  obtain ⟨low, high⟩ := millis_bounds covered
  have trimmed : Text.trim (instantKey t) = instantKey t :=
    Text.trim_ofList fun c => Text.isBlank_of_mem_integerText
  have read : Text.integer64? (instantKey t) = some t.millis :=
    Text.integer?_integerText (by simp only [Text.minInteger64]; omega)
      (by simp only [Text.maxInteger64]; omega)
  rw [ofInstantKey, trimmed, read, Option.bind_some, Instant.ofMillis?_millis]
  by_cases h : t.resumed.inRange = true
  · simp only [if_pos h]
  · simp only [if_neg h]

theorem utf8ByteSize_instantKey_le {t : Instant} (covered : t.inRange = true) :
    (instantKey t).utf8ByteSize ≤ 18 := by
  obtain ⟨low, high⟩ := millis_bounds covered
  rw [instantKey, Text.utf8ByteSize_integerText]
  exact Text.length_integerText_le (by decide) (by omega)

theorem plan_instantKey {t : Instant} (covered : t.inRange = true) (total : Option UInt64)
    (size : Int32) (window : TimeWindow) (requested : Int32) :
    let token : PageToken := ⟨.values, instantKey t, total, size⟩
    ValuesQuery.plan (some token) window requested =
      if t.resumed.inRange then .ok {
        query := ⟨.after t.resumed, window.beginTime.instant, window.endTime.instant,
          rowLimit (effectivePageSize (some token) requested)⟩
        isFirstPage := false
        knownTotal := total
        pageSize := effectivePageSize (some token) requested }
      else .error (.invalidResumeKey (instantKey t)) := by
  intro token
  have read : resumeInstant (some token) = (ofInstantKey (instantKey t)).map .after :=
    if_neg (instantKey_ne_empty t)
  rw [ValuesQuery.plan, read, ofInstantKey_instantKey covered]
  by_cases h : t.resumed.inRange = true
  · simp only [if_pos h]
    rfl
  · simp only [if_neg h]
    rfl

/-! ## Where the next page starts -/

/-- The page after a reading starts right behind it: its cursor is accepted, and its query admits
the later instants of the window and no others. -/
def Resumes (t : Instant) (window : TimeWindow) (total : Option UInt64) (size requested : Int32) :
    Prop :=
  ∃ plan, ValuesQuery.plan (nextToken .values (some (instantKey t)) true size total) window
      requested = .ok plan ∧
    ∀ t', plan.query.admits t' = true ↔ t < t' ∧ t' ≤ window.endTime.instant

theorem lt_resumed_iff {t : Instant} : t < t.resumed ↔ t.isLeap = true := by
  have := t.nano_lt
  rw [Instant.isLeap_iff, Instant.lt_iff]
  simp only [Instant.resumed, nanosPerSecond] at *
  omega

/-- Only the key of a leap second at the end of the calendar is refused. -/
theorem inRange_resumed_iff {t : Instant} (covered : t.inRange = true) :
    t.resumed.inRange = true ↔ t.isLeap = false ∨ t.second < Instant.lastSecond := by
  rw [Instant.inRange_iff] at *
  rw [← Bool.not_eq_true, Instant.isLeap_iff]
  have := t.nano_lt
  simp only [Instant.resumed, nanosPerSecond] at *
  omega

/-- Starting after `r` is the same as starting after `t` if these are the same, or if nothing
follows `t`. -/
theorem admits_iff_of_le {r t e : Instant} (stop : t ≤ e) :
    (∀ t', r < t' ∧ t' ≤ e ↔ t < t' ∧ t' ≤ e) ↔ r = t ∨ t < r ∧ t = e := by
  constructor
  · intro same
    by_cases before : r < t
    · exact absurd ((same t).1 ⟨before, stop⟩).1 (Instant.lt_irrefl t)
    by_cases behind : t < r
    · refine Or.inr ⟨behind, Instant.ext_of_not_lt (fun room => ?_) fun past => ?_⟩
      · -- the earlier one of `r` and `e` is admitted after `t` but not after `r`
        by_cases near : e ≤ r
        · have := ((same e).2 ⟨room, Instant.le_iff.2 (by omega)⟩).1
          rw [Instant.lt_iff] at this
          rw [Instant.le_iff] at near
          omega
        · have inside : r ≤ e := by
            rw [Instant.le_iff] at *
            omega
          exact Instant.lt_irrefl r ((same r).2 ⟨behind, inside⟩).1
      · rw [Instant.lt_iff] at past
        rw [Instant.le_iff] at stop
        omega
    · exact Or.inl (Instant.ext_of_not_lt before behind)
  · rintro (rfl | ⟨behind, rfl⟩) t'
    · rfl
    · rw [Instant.lt_iff] at *
      rw [Instant.lt_iff, Instant.le_iff]
      omega

@[simp] theorem admits_after {k b e t : Instant} {limit : Option Nat} :
    (ValuesQuery.mk (.after k) b e limit).admits t = true ↔ k < t ∧ t ≤ e := by
  simp [ValuesQuery.admits]

/-- The page after a reading starts right behind it exactly if the key carries the time of the
reading unchanged, or if the reading lies in a leap second at the end of the window, where nothing
is left to be skipped. -/
theorem resumes_iff {t : Instant} {window : TimeWindow} (covered : t.inRange = true)
    (stop : t ≤ window.endTime.instant) (total : Option UInt64) (size requested : Int32) :
    Resumes t window total size requested ↔
      (t.isLeap = false ∧ t.nano % 1000000 = 0) ∨
        (t.isLeap = true ∧ t.second < Instant.lastSecond ∧ t = window.endTime.instant) := by
  have token : nextToken .values (some (instantKey t)) true size total
      = some ⟨.values, instantKey t, total, size⟩ := rfl
  rw [Resumes, token, plan_instantKey covered]
  by_cases accepted : t.resumed.inRange = true
  · simp only [if_pos accepted, Except.ok.injEq, exists_eq_left', admits_after,
      admits_iff_of_le stop, Instant.resumed_eq_iff, lt_resumed_iff]
    have room := (inRange_resumed_iff covered).1 accepted
    constructor
    · rintro (kept | ⟨leap, last⟩)
      · exact Or.inl kept
      · exact Or.inr ⟨leap, room.resolve_left (by simp [leap]), last⟩
    · rintro (kept | ⟨leap, -, last⟩)
      · exact Or.inl kept
      · exact Or.inr ⟨leap, last⟩
  · have refused : ¬ (t.isLeap = false ∨ t.second < Instant.lastSecond) :=
      mt (inRange_resumed_iff covered).2 accepted
    simp only [if_neg accepted]
    constructor
    · rintro ⟨plan, planned, -⟩
      cases planned
    · rintro (⟨ordinary, -⟩ | ⟨-, room, -⟩)
      · exact absurd (Or.inl ordinary) refused
      · exact absurd (Or.inr room) refused

/-- The window from 10 June 2021, 00:00, to 23:00 of that day. -/
def sampleWindow : TimeWindow where
  beginTime := ⟨.ofSecond 1623283200, .utc⟩
  endTime := ⟨.ofSecond 1623366000, .utc⟩
  zone := .utc

/-- Half a millisecond past midnight is handed out again: the page after it starts at midnight. -/
theorem not_resumes_halfMilli :
    ¬ Resumes ⟨1623283200, 500000, by decide⟩ sampleWindow (some 2) 1 1 := by
  rintro ⟨plan, planned, admits⟩
  cases planned
  exact absurd ((admits ⟨1623283200, 500000, by decide⟩).1 (by decide)).1 (by decide)

/-- The page after a whole second starts right behind it, and the page after a leap second does
not. -/
theorem resumes_iff_sample :
    Resumes (.ofSecond 1623283200) sampleWindow (some 2) 1 1 ∧
      ¬ Resumes ⟨1623283259, 1500000000, by decide⟩ sampleWindow (some 2) 1 1 :=
  ⟨(resumes_iff (by decide) (by decide) _ _ _).2 (by decide),
    fun h => absurd ((resumes_iff (by decide) (by decide) _ _ _).1 h) (by decide)⟩

end HydroArchive
