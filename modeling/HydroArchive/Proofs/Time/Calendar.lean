import HydroArchive.Time.Calendar
import Mathlib.Tactic.Common

/-!
# Day numbers and dates

The date of a day number exists, and it has that day number.  The day is found within its 400 years
by counting centuries, four years and single years, the last of which may be one day longer; and
within its year by counting months.

## Main statements

* `Date.valid_ofDayNumber`, `Date.dayNumber_ofDayNumber` — from a day number to a date and back.
* `Date.Valid.dayNumber_mem` — the day numbers of the dates of some years.
-/

namespace HydroArchive

open Calendar

/-! ## Months -/

/-- The months up to one of them are counted off a day of the year, and the rest is a day of that
month. -/
theorem monthDay_spec {lengths : List Nat} {n : Nat} (month : Nat)
    (h : n < lengths.foldr (· + ·) 0) :
    ∃ i, i < lengths.length ∧ (monthDay month lengths n).1 = month + i ∧
      1 ≤ (monthDay month lengths n).2 ∧ (monthDay month lengths n).2 ≤ lengths.getD i 0 ∧
      (lengths.take i).foldr (· + ·) 0 + (monthDay month lengths n).2 = n + 1 := by
  induction lengths generalizing month n with
  | nil => cases h
  | cons length lengths ih =>
    rw [List.foldr_cons] at h
    rw [monthDay]
    split
    case isTrue here =>
      refine ⟨0, Nat.succ_pos _, rfl, Nat.succ_pos _, ?_, ?_⟩
      · rw [List.getD_cons_zero]
        omega
      · rw [List.take_zero, List.foldr_nil]
        omega
    case isFalse later =>
      obtain ⟨i, inside, eq, pos, le, count⟩ := ih (n := n - length) (month + 1) (by omega)
      refine ⟨i + 1, Nat.succ_lt_succ inside, by omega, pos, le, ?_⟩
      rw [List.take_succ_cons, List.foldr_cons]
      omega

@[simp] theorem foldr_monthLengths (leap : Bool) :
    (monthLengths leap).foldr (· + ·) 0 = if leap then 366 else 365 := by
  cases leap <;> rfl

@[simp] theorem length_monthLengths (leap : Bool) : (monthLengths leap).length = 12 := rfl

/-! ## Years -/

theorem isLeapYear_iff {y : Int} :
    isLeapYear y = true ↔ y % 4 = 0 ∧ (¬ y % 100 = 0 ∨ y % 400 = 0) := by
  simp [isLeapYear]

section Counting

/- A year is counted by the cycles of 400 years before it, and by the centuries, the four years and
the single years before it in its cycle, in its century and in its four years. -/
variable (cycle : Int) {century four single : Nat}

/-- The days before a year. -/
theorem daysBeforeYear_count (hc : century ≤ 3) (hf : four ≤ 24) (hs : single ≤ 3) :
    daysBeforeYear (cycle * 400 + (100 * century + 4 * four + single + 1 : Nat))
      = cycle * 146097 + (36524 * century + 1461 * four + 365 * single : Nat) := by
  rw [daysBeforeYear]
  omega

/-- The last of four years is a leap year, unless it ends a century that does not end a cycle. -/
theorem isLeapYear_count (hc : century ≤ 3) (hf : four ≤ 24) (hs : single ≤ 3) :
    isLeapYear (cycle * 400 + (100 * century + 4 * four + single + 1 : Nat)) = true
      ↔ single = 3 ∧ (four ≠ 24 ∨ century = 3) := by
  rw [isLeapYear_iff]
  omega

end Counting

namespace Date

/-- The year of a day number, and the day of that year. -/
theorem exists_dayOfYear (n : Int) : ∃ (year : Int) (day : Nat),
    ofDayNumber n = ⟨year, (monthDay 1 (monthLengths (isLeapYear year)) day).1,
      (monthDay 1 (monthLengths (isLeapYear year)) day).2⟩ ∧
    daysBeforeYear year + day = n + epochDay ∧
    day < (monthLengths (isLeapYear year)).foldr (· + ·) 0 := by
  generalize hm : n + epochDay = m
  generalize hcycle : (m % 146097).toNat = inCycle
  generalize hcentury : min (inCycle / 36524) 3 = century
  generalize hrest : inCycle - 36524 * century = inCentury
  generalize hfour : inCentury / 1461 = four
  generalize hinFour : inCentury % 1461 = inFour
  generalize hsingle : min (inFour / 365) 3 = single
  have centuries : century ≤ 3 := hcentury ▸ Nat.min_le_right _ _
  have singles : single ≤ 3 := hsingle ▸ Nat.min_le_right _ _
  have inCentury_le : inCentury ≤ 36524 ∧ (century < 3 → inCentury < 36524) := by omega
  have fours : four ≤ 24 := by omega
  refine ⟨m / 146097 * 400 + (100 * century + 4 * four + single + 1 : Nat), inFour - 365 * single,
    ?_, ?_, ?_⟩
  · simp only [ofDayNumber, hm, hcycle, hcentury, hrest, hfour, hinFour, hsingle]
  · rw [daysBeforeYear_count _ centuries fours singles]
    omega
  · rw [foldr_monthLengths]
    split
    case isTrue leap => omega
    case isFalse common =>
      rw [isLeapYear_count _ centuries fours singles] at common
      omega

theorem valid_ofDayNumber (n : Int) : (ofDayNumber n).Valid := by
  obtain ⟨year, day, eq, -, inYear⟩ := exists_dayOfYear n
  obtain ⟨i, inside, month, pos, le, -⟩ := monthDay_spec 1 inYear
  rw [length_monthLengths] at inside
  rw [eq, Valid, monthLength]
  dsimp only
  rw [month, Nat.add_sub_cancel_left]
  exact ⟨by omega, by omega, pos, le⟩

@[simp] theorem dayNumber_ofDayNumber (n : Int) : (ofDayNumber n).dayNumber = n := by
  obtain ⟨year, day, eq, count, inYear⟩ := exists_dayOfYear n
  obtain ⟨i, -, month, pos, -, before⟩ := monthDay_spec 1 inYear
  rw [eq, dayNumber]
  dsimp only
  rw [month, daysBeforeMonth, Nat.add_sub_cancel_left]
  omega

/-- A year has 12 months, and a month has at most 31 days. -/
theorem Valid.le {d : Date} (valid : d.Valid) : d.month ≤ 12 ∧ d.day ≤ 31 := by
  obtain ⟨first, last, -, inMonth⟩ := valid
  have lengths : ∀ leap, ∀ month < 12, (monthLengths leap).getD month 0 ≤ 31 := by decide
  exact ⟨last, Nat.le_trans inMonth (lengths (isLeapYear d.year) (d.month - 1) (by omega))⟩

/-- The next year begins after 365 days, or 366. -/
theorem daysBeforeYear_succ (y : Int) :
    daysBeforeYear (y + 1) = daysBeforeYear y + if isLeapYear y then 366 else 365 := by
  have leap := isLeapYear_iff (y := y)
  rw [daysBeforeYear, daysBeforeYear]
  split
  case isTrue isLeap =>
    rw [leap] at isLeap
    omega
  case isFalse common =>
    rw [leap] at common
    omega

theorem daysBeforeYear_mono {y z : Int} (h : y ≤ z) : daysBeforeYear y ≤ daysBeforeYear z := by
  rw [daysBeforeYear, daysBeforeYear]
  omega

/-- The days of a date come after those of the years before it, and not after its own year. -/
theorem Valid.dayNumber_bounds {d : Date} (valid : d.Valid) :
    daysBeforeYear d.year ≤ d.dayNumber + epochDay ∧
      d.dayNumber + epochDay < daysBeforeYear (d.year + 1) := by
  obtain ⟨first, last, pos, inMonth⟩ := valid
  have inYear : ∀ leap, ∀ month < 12, daysBeforeMonth leap (month + 1) +
      (monthLengths leap).getD month 0 ≤ if leap then 366 else 365 := by decide
  have inYear := inYear (isLeapYear d.year) (d.month - 1) (by omega)
  rw [Nat.sub_add_cancel first] at inYear
  rw [monthLength] at inMonth
  rw [daysBeforeYear_succ, dayNumber]
  split at inYear
  case isTrue leap => rw [if_pos leap]; omega
  case isFalse common => rw [if_neg common]; omega

/-- The days of some years come between the first of the first year and the last of the last. -/
theorem Valid.dayNumber_mem {d : Date} (valid : d.Valid) {first last : Int} (low : first ≤ d.year)
    (high : d.year ≤ last) : daysBeforeYear first ≤ d.dayNumber + epochDay ∧
      d.dayNumber + epochDay < daysBeforeYear (last + 1) :=
  ⟨Int.le_trans (daysBeforeYear_mono low) valid.dayNumber_bounds.1,
    Int.lt_of_lt_of_le valid.dayNumber_bounds.2 (daysBeforeYear_mono (by omega))⟩

end Date

end HydroArchive
