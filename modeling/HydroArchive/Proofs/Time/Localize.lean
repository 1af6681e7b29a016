import HydroArchive.Proofs.Page.InstantKey
import HydroArchive.Time.Zone
import Mathlib.Order.Bounds.Basic

/-!
# What a wall-clock time means in a zone

A clock that is put back shows some times twice, and one that is put forward skips some.  A time
that the clock of a zone shows is read at the first instant at which it does.  A time that it does
not show is read an hour later, which is right for the gaps of daylight saving, where an hour later
the clock shows the time again.

Not all gaps are so short: clocks have been put forward by two hours at once, and a zone that moves
to the other side of the date line skips a whole day.  In such a gap the time is read in UTC,
whatever the zone, unless the clock shows the time an hour later.

A clock that is behind UTC does not show the last times of the calendar at all.  In the last hour
there is no time an hour later, and nothing is read.

## Main definitions

* `ZoneHistory.readingAt` — the seconds at which a clock reads a time.
* `ZoneHistory.Settled` — that a clock is not changed near the start of the calendar.
* `Zone.Shows`, `Zone.FirstShows` — that a clock shows a time, and at which instant it first does.
* `Zone.ReadsAs` — the instant that a wall-clock time should mean.

## Main statements

* `firstOf_earliest?` — the search through the history of a clock finds the first of the seconds.
* `settled_of_history?` — all clocks of the table are settled.
* `localize_readsAs_iff` — which wall-clock times are read as they should be.
-/

namespace HydroArchive

/-! ## The history of a clock -/

section Ascending

variable {second : Int} {c : Int × Int} {cs : List (Int × Int)}

theorem lt_of_mem_ascendingAfter (h : c ∈ ascendingAfter second cs) : second < c.1 := by
  induction cs generalizing second with
  | nil => cases h
  | cons head cs ih =>
    rw [ascendingAfter] at h
    split at h
    case isTrue later =>
      rcases List.mem_cons.1 h with rfl | h
      · exact later
      · exact later.trans (ih h)
    case isFalse => exact ih h

theorem pairwise_ascendingAfter (second : Int) (cs : List (Int × Int)) :
    (ascendingAfter second cs).Pairwise fun a b => a.1 < b.1 := by
  induction cs generalizing second with
  | nil => exact .nil
  | cons head cs ih =>
    rw [ascendingAfter]
    split
    · exact .cons (fun _ h => lt_of_mem_ascendingAfter h) (ih _)
    · exact ih _

theorem pairwise_ascending (cs : List (Int × Int)) :
    (ascending cs).Pairwise fun a b => a.1 < b.1 := by
  cases cs with
  | nil => exact .nil
  | cons head cs =>
    exact .cons (fun _ h => lt_of_mem_ascendingAfter h) (pairwise_ascendingAfter _ _)

theorem mem_of_mem_ascendingAfter (h : c ∈ ascendingAfter second cs) : c ∈ cs := by
  induction cs generalizing second with
  | nil => cases h
  | cons head cs ih =>
    rw [ascendingAfter] at h
    split at h
    · exact List.mem_cons.2 ((List.mem_cons.1 h).imp_right ih)
    · exact List.mem_cons_of_mem _ (ih h)

theorem mem_of_mem_ascending (h : c ∈ ascending cs) : c ∈ cs := by
  cases cs with
  | nil => cases h
  | cons head cs => exact List.mem_cons.2 ((List.mem_cons.1 h).imp_right mem_of_mem_ascendingAfter)

end Ascending

namespace ZoneHistory

variable {start : Option Int} {offset reading s : Int} {c : Int × Int} {cs : List (Int × Int)}
  {h : ZoneHistory}

theorem offsetAfter_of_lt (before : s < c.1) : offsetAfter offset (c :: cs) s = offset :=
  if_pos before

theorem offsetAfter_of_le (after : c.1 ≤ s) :
    offsetAfter offset (c :: cs) s = offsetAfter c.2 cs s :=
  if_neg (not_lt.2 after)

/-- The offset at a second is the first one, or that of a change which came before. -/
theorem offsetAfter_cases (offset : Int) (cs : List (Int × Int)) (s : Int) :
    offsetAfter offset cs s = offset ∨ ∃ c ∈ cs, c.1 ≤ s ∧ offsetAfter offset cs s = c.2 := by
  induction cs generalizing offset with
  | nil => exact Or.inl rfl
  | cons c cs ih =>
    rcases lt_or_ge s c.1 with before | after
    · exact Or.inl (offsetAfter_of_lt before)
    · rw [offsetAfter_of_le after]
      rcases ih c.2 with same | ⟨d, mem, past, eq⟩
      · exact Or.inr ⟨c, List.mem_cons_self, after, same⟩
      · exact Or.inr ⟨d, List.mem_cons_of_mem c mem, past, eq⟩

/-- The seconds from `start` on at which a clock reads a time. -/
def readingFrom (start : Option Int) (offset : Int) (cs : List (Int × Int)) (reading : Int) :
    Set Int :=
  {s | notBefore start s = true ∧ s + offsetAfter offset cs s = reading}

theorem notBefore_trans {s' : Int} (h : notBefore start s = true) (later : s ≤ s') :
    notBefore start s' = true := by
  cases start with
  | none => rfl
  | some a => exact decide_eq_true ((of_decide_eq_true h).trans later)

/-- Until the first change, the clock has one offset. -/
theorem mem_readingFrom_of_lt (before : s < c.1) :
    s ∈ readingFrom start offset (c :: cs) reading ↔
      notBefore start s = true ∧ s = reading - offset := by
  rw [readingFrom, Set.mem_ofPred_eq, offsetAfter_of_lt before]
  refine and_congr_right fun _ => ?_
  omega

/-- From the first change on, the rest of the changes says what the clock reads. -/
theorem mem_readingFrom_of_le (started : notBefore start c.1 = true) (after : c.1 ≤ s) :
    s ∈ readingFrom start offset (c :: cs) reading ↔
      s ∈ readingFrom (some c.1) c.2 cs reading := by
  rw [readingFrom, readingFrom, Set.mem_ofPred_eq, Set.mem_ofPred_eq, offsetAfter_of_le after]
  exact and_congr_left fun _ => iff_of_true (notBefore_trans started after) (decide_eq_true after)

theorem le_of_mem_readingFrom (h : s ∈ readingFrom (some c.1) offset cs reading) : c.1 ≤ s :=
  of_decide_eq_true h.1

/-- An answer is the first of some seconds, or there are none of them. -/
def FirstOf (seconds : Set Int) : Option Int → Prop
  | some s => IsLeast seconds s
  | none => seconds = ∅

/-- Where no time before the first change is meant, the search goes on behind it. -/
theorem readingFrom_cons (started : notBefore start c.1 = true)
    (late : ¬ (notBefore start (reading - offset) = true ∧ reading - offset < c.1)) :
    readingFrom start offset (c :: cs) reading = readingFrom (some c.1) c.2 cs reading := by
  ext s
  rcases lt_or_ge s c.1 with before | after
  · refine iff_of_false (fun mem => ?_) fun mem => (le_of_mem_readingFrom mem).not_gt before
    obtain ⟨begun, rfl⟩ := (mem_readingFrom_of_lt before).1 mem
    exact late ⟨begun, before⟩
  · exact mem_readingFrom_of_le started after

theorem firstOf_earliestFrom? (sorted : cs.Pairwise fun a b => a.1 < b.1)
    (started : ∀ c ∈ cs, notBefore start c.1 = true) :
    FirstOf (readingFrom start offset cs reading) (earliestFrom? start offset cs reading) := by
  induction cs generalizing start offset with
  | nil =>
    have only (s : Int) : s ∈ readingFrom start offset [] reading ↔
        notBefore start s = true ∧ s = reading - offset :=
      and_congr_right fun _ => by rw [offsetAfter]; omega
    rw [earliestFrom?]
    split
    case isTrue begun => exact ⟨(only _).2 ⟨begun, rfl⟩, fun s mem => ((only s).1 mem).2.ge⟩
    case isFalse early =>
      refine Set.eq_empty_iff_forall_notMem.2 fun s mem => ?_
      obtain ⟨begun, rfl⟩ := (only s).1 mem
      exact early begun
  | cons c cs ih =>
    have sorted := List.pairwise_cons.1 sorted
    rw [earliestFrom?]
    split
    case isTrue inTime =>
      refine ⟨(mem_readingFrom_of_lt inTime.2).2 ⟨inTime.1, rfl⟩, fun s mem => ?_⟩
      rcases lt_or_ge s c.1 with before | after
      · exact ((mem_readingFrom_of_lt before).1 mem).2.ge
      · exact inTime.2.le.trans after
    case isFalse late =>
      rw [readingFrom_cons (started c List.mem_cons_self) late]
      exact ih sorted.2 fun d mem => decide_eq_true (sorted.1 d mem).le

/-- The seconds at which a clock reads a time. -/
def readingAt (h : ZoneHistory) (reading : Int) : Set Int := {s | s + h.offsetAt s = reading}

/-- The search through a history finds the first second at which the clock reads a time. -/
theorem firstOf_earliest? (h : ZoneHistory) (reading : Int) :
    FirstOf (h.readingAt reading) (h.earliest? reading) := by
  have all : h.readingAt reading = readingFrom none h.first h.changes reading :=
    Set.ext fun s => (and_iff_right rfl).symm
  rw [all]
  exact firstOf_earliestFrom? (pairwise_ascending _) fun _ _ => rfl

/-- No change of the clock is near the start of the calendar: whatever it is put forward or back
by, it is later than that. -/
def Settled (h : ZoneHistory) : Prop :=
  ∀ c ∈ h.changes, Instant.firstSecond + (h.first - c.2).natAbs ≤ c.1

/-- A time that a clock reads before the calendar starts is not read again after that. -/
theorem Settled.not_mem_both {s' : Int} (settled : h.Settled) (early : s < Instant.firstSecond)
    (covered : Instant.firstSecond ≤ s') (reads : s ∈ h.readingAt reading)
    (again : s' ∈ h.readingAt reading) : False := by
  have first : h.offsetAt s = h.first := by
    rcases offsetAfter_cases h.first h.changes s with first | ⟨c, mem, past, -⟩
    · exact first
    · have := settled c mem
      omega
  have reads : s + h.offsetAt s = reading := reads
  have again : s' + h.offsetAt s' = reading := again
  rcases offsetAfter_cases h.first h.changes s' with same | ⟨c, mem, past, eq⟩
  · have same : h.offsetAt s' = h.first := same
    omega
  · have eq : h.offsetAt s' = c.2 := eq
    have := settled c mem
    omega

end ZoneHistory

/-! ## The listed clocks

The search finds the first second of all.  It would miss an instant of the calendar if the clock
read the same before the calendar starts, which no clock of the table does: the first of them were
changed in the 19th century.
-/

/-- A day before all those that a yearly turn can name, whose years are counted from 0 on. -/
def dayFloor : Int := -720007

/-- Whatever its month and its day, a date of the years from 0 on comes at least a week later. -/
theorem dayFloor_add_le {year : Int} (from0 : 0 ≤ year) (month day : Nat) :
    dayFloor + 7 ≤ Date.dayNumber ⟨year, month, day⟩ := by
  simp only [dayFloor, Date.dayNumber, Calendar.daysBeforeYear, Calendar.epochDay]
  omega

theorem MonthDay.dayFloor_le {year : Int} (from0 : 0 ≤ year) (month : Nat) (day : MonthDay) :
    dayFloor ≤ day.dayNumber year month := by
  cases day with
  | on day | onOrAfter weekday day =>
    have := dayFloor_add_le from0 month day
    dsimp only [MonthDay.dayNumber]
    omega
  | last weekday =>
    have := dayFloor_add_le from0 month (Date.monthLength ⟨year, month, 1⟩)
    dsimp only [MonthDay.dayNumber]
    omega

/-- A line of a history tells of no change near the start of the calendar. -/
def ZoneChange.settled (first : Int) : ZoneChange → Bool
  | .once second offset => Instant.firstSecond + (first - offset).natAbs ≤ second
  | .yearly _ _ turns => turns.all fun t =>
    Instant.firstSecond + (first - t.offset).natAbs ≤ dayFloor * secondsPerDay + t.second

theorem ZoneChange.settled_expand {first : Int} {line : ZoneChange} (h : line.settled first = true)
    {c : Int × Int} (mem : c ∈ line.expand) :
    Instant.firstSecond + (first - c.2).natAbs ≤ c.1 := by
  cases line with
  | once second offset =>
    cases List.mem_singleton.1 mem
    exact of_decide_eq_true h
  | yearly firstYear lastYear turns =>
    obtain ⟨year, -, mem⟩ := List.mem_flatMap.1 mem
    obtain ⟨t, listed, rfl⟩ := List.mem_map.1 mem
    have ofTurn := of_decide_eq_true (List.all_eq_true.1 h t listed)
    have day := MonthDay.dayFloor_le (Int.natCast_nonneg year) t.month t.day
    dsimp only [YearlyTurn.inYear, secondsPerDay] at ofTurn ⊢
    omega

theorem ZoneHistory.settled_of_lines {h : ZoneHistory}
    (lines : (h.lines.all fun line => line.settled h.first) = true) : h.Settled := by
  intro c mem
  obtain ⟨line, listed, mem⟩ := List.mem_flatMap.1 (mem_of_mem_ascending mem)
  exact ZoneChange.settled_expand (List.all_eq_true.1 lines line listed) mem

namespace ZoneTable

/-- The table is checked line by line. -/
theorem settled_clocks :
    (clocks.all fun clock => clock.2.lines.all fun line => line.settled clock.2.first) = true := by
  decide +kernel

/-- The clock of a name is one of the listed clocks, also where the name is an alias. -/
theorem mem_of_history? {name : String} {h : ZoneHistory} (found : history? name = some h) :
    ∃ target, (target, h) ∈ clocks := by
  have mem_of_lookup {target : String} (found : clocks.lookup target = some h) :
      (target, h) ∈ clocks := by
    obtain ⟨before, after, eq, -⟩ := List.lookup_eq_some_iff.1 found
    rw [eq]
    exact List.mem_append_right _ List.mem_cons_self
  rw [history?] at found
  split at found
  · exact ⟨_, mem_of_lookup found⟩
  · exact ⟨_, mem_of_lookup found⟩

theorem settled_of_history? {name : String} {h : ZoneHistory} (found : history? name = some h) :
    h.Settled := by
  obtain ⟨target, mem⟩ := mem_of_history? found
  exact ZoneHistory.settled_of_lines (List.all_eq_true.1 settled_clocks _ mem)

end ZoneTable

/-! ## Reading wall-clock times -/

/-- The time an hour later on the same clock. -/
def WallTime.hourLater (w : WallTime) : WallTime := ⟨w.asUtc.plus 3600⟩

theorem WallTime.ext_iff {v w : WallTime} :
    v = w ↔ v.asUtc.second = w.asUtc.second ∧ v.asUtc.nano = w.asUtc.nano := by
  rw [← Instant.ext_iff]
  exact ⟨congrArg WallTime.asUtc, congrArg WallTime.mk⟩

namespace Zone

/-- The clock of the zone shows a time of the calendar, at an instant of the calendar. -/
def Shows (z : Zone) (w : WallTime) : Prop :=
  w.asUtc.inRange = true ∧ ∃ t : Instant, t.inRange = true ∧ z.wallTime t = w

/-- The first instant of the calendar at which the clock of the zone shows a time. -/
structure FirstShows (z : Zone) (w : WallTime) (t : Instant) : Prop where
  covered : t.inRange = true
  shown : z.wallTime t = w
  first (t' : Instant) (covered : t'.inRange = true) (shown : z.wallTime t' = w) : t ≤ t'

/-- The instant that a wall-clock time should mean: the first one at which the clock of the zone
shows it, and where it does not, one at which the clock shows the time an hour later. -/
structure ReadsAs (z : Zone) (w : WallTime) (t : Instant) : Prop where
  shown (shows : z.Shows w) : z.FirstShows w t
  gap (skipped : ¬ z.Shows w) : z.wallTime t = w.hourLater

/-- The history of the zone's clock.  At a bare offset, the clock never changes. -/
def history : Zone → ZoneHistory
  | named _ h => h
  | offset seconds => ⟨seconds, []⟩

variable {z : Zone} {w : WallTime} {t : Instant}

theorem wallTime_eq_iff : z.wallTime t = w ↔
    t.second ∈ z.history.readingAt w.asUtc.second ∧ t.nano = w.asUtc.nano := by
  have offset : z.offsetAt t = z.history.offsetAt t.second := by cases z <;> rfl
  rw [WallTime.ext_iff, wallTime, offset]
  rfl

theorem earliest?_eq (z : Zone) (w : WallTime) :
    z.earliest? w = ((z.history.earliest? w.asUtc.second).map
      fun s => { w.asUtc with second := s }).filter Instant.inRange := by
  cases z <;> rfl

/-- What the search finds is the first instant at which the clock shows the time. -/
theorem firstShows_of_earliest? (found : z.earliest? w = some t) : z.FirstShows w t := by
  rw [earliest?_eq] at found
  obtain ⟨found, covered⟩ := Option.filter_eq_some_iff.1 found
  obtain ⟨s, least, rfl⟩ := Option.map_eq_some_iff.1 found
  have isLeast : IsLeast _ s := least ▸ z.history.firstOf_earliest? w.asUtc.second
  refine ⟨covered, wallTime_eq_iff.2 ⟨isLeast.1, rfl⟩, fun t' _ shown => ?_⟩
  obtain ⟨reads, nano⟩ := wallTime_eq_iff.1 shown
  have := isLeast.2 reads
  rw [Instant.le_iff]
  dsimp only
  omega

theorem exists_earliest? (settled : z.history.Settled) (shows : z.Shows w) :
    ∃ t, z.earliest? w = some t := by
  obtain ⟨-, t, covered, shown⟩ := shows
  obtain ⟨reads, -⟩ := wallTime_eq_iff.1 shown
  have search := z.history.firstOf_earliest? w.asUtc.second
  rw [earliest?_eq]
  cases found : z.history.earliest? w.asUtc.second with
  | none =>
    rw [found] at search
    exact absurd reads (Set.eq_empty_iff_forall_notMem.1 search _)
  | some s =>
    have isLeast : IsLeast _ s := found ▸ search
    have notLater := isLeast.2 reads
    have covered := Instant.inRange_iff.1 covered
    -- The least second could lie before the calendar, and then no instant would be found.
    have notEarly : ¬ s < Instant.firstSecond := fun early =>
      settled.not_mem_both early covered.1 isLeast.1 reads
    exact ⟨_, Option.filter_eq_some_iff.2 ⟨rfl, Instant.inRange_iff.2 (by dsimp only; omega)⟩⟩

theorem shows_of_earliest? (inside : w.asUtc.inRange = true) (found : z.earliest? w = some t) :
    z.Shows w :=
  have first := firstShows_of_earliest? found
  ⟨inside, t, first.covered, first.shown⟩

theorem earliest?_eq_none_iff (settled : z.history.Settled) (inside : w.asUtc.inRange = true) :
    z.earliest? w = none ↔ ¬ z.Shows w := by
  constructor
  · intro missed shows
    obtain ⟨t, found⟩ := exists_earliest? settled shows
    cases missed.symm.trans found
  · intro skipped
    cases found : z.earliest? w with
    | none => rfl
    | some t => exact absurd (shows_of_earliest? inside found) skipped

section Localize

variable (settled : z.history.Settled) (inside : w.asUtc.inRange = true)
include settled

/-- A time that the clock shows is read where the clock first does. -/
theorem localize_of_shows (shows : z.Shows w) :
    ∃ t, z.localize w = some t ∧ z.FirstShows w t := by
  obtain ⟨t, found⟩ := exists_earliest? settled shows
  exact ⟨t, by rw [localize, found], firstShows_of_earliest? found⟩

include inside

/-- Any other time is read with the help of the time an hour later, if there is one. -/
theorem localize_of_skipped (skipped : ¬ z.Shows w) :
    z.localize w = if w.hourLater.asUtc.inRange then
      some ((z.earliest? w.hourLater).getD w.asUtc) else none := by
  rw [localize, (earliest?_eq_none_iff settled inside).2 skipped]
  exact apply_ite (Option.map fun later => (z.earliest? ⟨later⟩).getD w.asUtc) _ _ _

/-- A time in a gap is read where the clock first shows the time an hour later. -/
theorem localize_of_gap (skipped : ¬ z.Shows w) (shows : z.Shows w.hourLater) :
    ∃ t, z.localize w = some t ∧ z.FirstShows w.hourLater t := by
  obtain ⟨t, found⟩ := exists_earliest? settled shows
  refine ⟨t, ?_, firstShows_of_earliest? found⟩
  rw [localize_of_skipped settled inside skipped, if_pos shows.1, found, Option.getD_some]

/-- Where the clock does not show that time either, the zone does not count. -/
theorem localize_of_longGap (skipped : ¬ z.Shows w) (later : ¬ z.Shows w.hourLater)
    (covered : w.hourLater.asUtc.inRange = true) : z.localize w = some w.asUtc := by
  rw [localize_of_skipped settled inside skipped, if_pos covered,
    (earliest?_eq_none_iff settled covered).2 later, Option.getD_none]

/-- Nothing is read in the last hour of the calendar, if the clock does not show the time. -/
theorem localize_eq_none_iff :
    z.localize w = none ↔ ¬ z.Shows w ∧ w.hourLater.asUtc.inRange = false := by
  by_cases shows : z.Shows w
  · obtain ⟨t, read, -⟩ := localize_of_shows settled shows
    simp [read, shows]
  · simp [localize_of_skipped settled inside shows, shows]

end Localize

theorem settled_of_ofName? {name : String} (known : ofName? name = some z) :
    z.history.Settled := by
  obtain ⟨h, found, rfl⟩ := Option.map_eq_some_iff.1 known
  exact ZoneTable.settled_of_history? found

/-- A wall-clock time is read as it should be where the clock of the zone shows it or the time an
hour later.  Otherwise it is read in UTC, or not at all where the calendar ends before the time an
hour later. -/
theorem localize_readsAs_iff {name : String} (known : ofName? name = some z)
    (covered : w.asUtc.inRange = true) :
    ((∃ t, z.localize w = some t ∧ z.ReadsAs w t) ↔ z.Shows w ∨ z.Shows w.hourLater) ∧
      (¬ z.Shows w → ¬ z.Shows w.hourLater → w.hourLater.asUtc.inRange = true →
        z.localize w = some w.asUtc) ∧
      (z.localize w = none ↔ ¬ z.Shows w ∧ w.hourLater.asUtc.inRange = false) := by
  have settled := settled_of_ofName? known
  refine ⟨⟨?_, ?_⟩, localize_of_longGap settled covered, localize_eq_none_iff settled covered⟩
  · rintro ⟨t, read, reads⟩
    by_contra! unseen
    obtain ⟨skipped, later⟩ := unseen
    have shown := reads.gap skipped
    by_cases inside : w.hourLater.asUtc.inRange = true
    · -- Read in UTC, the time is an instant of the calendar; the clock shows something else then.
      rw [localize_of_longGap settled covered skipped later inside] at read
      cases read
      exact later ⟨inside, w.asUtc, covered, shown⟩
    · rw [(localize_eq_none_iff settled covered).2 ⟨skipped, eq_false_of_ne_true inside⟩] at read
      cases read
  · intro shows
    by_cases shown : z.Shows w
    · obtain ⟨t, read, first⟩ := localize_of_shows settled shown
      exact ⟨t, read, fun _ => first, fun skipped => absurd shown skipped⟩
    · obtain ⟨t, read, first⟩ := localize_of_gap settled covered shown (shows.resolve_left shown)
      exact ⟨t, read, fun shows => absurd shows shown, fun _ => first.shown⟩

/-- Half past two in the night in which daylight saving began in the United States in 2021. -/
def gapTime : WallTime := ⟨.ofSecond 1615689000⟩

/-- Half past two was not shown that night, and is read as half past three. -/
theorem localize_readsAs_iff_sample : ∃ z, ofName? "America/Los_Angeles" = some z ∧
    gapTime.asUtc.inRange = true ∧ ∃ t, z.localize gapTime = some t ∧ z.ReadsAs gapTime t := by
  have halfPastThree : ((ofName? "America/Los_Angeles").map fun z =>
      z.wallTime (.ofSecond 1615717800)) = some gapTime.hourLater := by decide +kernel
  obtain ⟨z, known, shown⟩ := Option.map_eq_some_iff.1 halfPastThree
  have covered : gapTime.asUtc.inRange = true := by decide
  exact ⟨z, known, covered,
    (localize_readsAs_iff known covered).1.2 (Or.inr ⟨by decide, _, by decide, shown⟩)⟩

/-- Half past midnight of 3 April 1988, when the clock of Newfoundland was put forward by two hours
at one minute past midnight. -/
def longGapTime : WallTime := ⟨.ofSecond 576030600⟩

/-- The clock did not show that time, and where it is read, the clock shows nine in the evening of
the day before. -/
theorem longGapTime_in_newfoundland : ((ofName? "America/St_Johns").map fun z =>
    (z.earliest? longGapTime, (z.localize longGapTime).map z.wallTime)) =
      some (none, some ⟨.ofSecond 576018000⟩) := by
  decide +kernel

/-- So not all times are read as they should be. -/
theorem not_readsAs_longGapTime :
    ¬ ∀ (name : String) (z : Zone) (w : WallTime), ofName? name = some z →
      w.asUtc.inRange = true → ∃ t, z.localize w = some t ∧ z.ReadsAs w t := by
  intro h
  obtain ⟨z, known, facts⟩ := Option.map_eq_some_iff.1 longGapTime_in_newfoundland
  obtain ⟨unseen, shown⟩ := Prod.mk.inj facts
  have skipped := (earliest?_eq_none_iff (settled_of_ofName? known) (by decide)).1 unseen
  obtain ⟨t, read, reads⟩ := h _ z longGapTime known (by decide)
  rw [read, Option.map_some, reads.gap skipped] at shown
  exact absurd shown (by decide)

end Zone

end HydroArchive
