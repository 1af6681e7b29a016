import HydroArchive.Proofs.Page.InstantKey
import HydroArchive.Proofs.Time.Calendar
import HydroArchive.Proofs.Time.FullTime
import HydroArchive.Time.Format

/-!
# How times are written, read again

A wall-clock time of the years 0 to 9999 is written in full, and so is an offset of whole minutes.
The strict grammar reads them again, with one exception.  A leap second is written as second 60 only
behind second 59.  Behind any other second it is written as the ordinary second that follows, and
that is what is read.

## Main definitions

* `Instant.asWritten` — the instant that is read from a written one.
* `WallTime.date` — the date on a clock.

## Main statements

* `Time.exists_fullTime` — wall-clock times are written in full.
* `Time.strict?_stampAt` — what is read of a written time and its offset.
-/

namespace HydroArchive

/-! ## Leap seconds -/

namespace Instant

theorem nano_sub_lt (t : Instant) : t.nano - nanosPerSecond < 2 * nanosPerSecond :=
  Nat.lt_of_le_of_lt (Nat.sub_le _ _) t.nano_lt

/-- The instant that is read from a written one.  A leap second that is not behind second 59 of its
minute becomes the second that follows. -/
def asWritten (t : Instant) : Instant :=
  if t.isLeap ∧ t.second % 60 ≠ 59 then
    ⟨t.second + 1, t.nano - nanosPerSecond, t.nano_sub_lt⟩
  else t

variable {t : Instant}

theorem asWritten_eq_iff : t.asWritten = t ↔ (t.isLeap = true → t.second % 60 = 59) := by
  rw [asWritten]
  split
  case isTrue stray =>
    refine iff_of_false (fun same => ?_) fun ends => stray.2 (ends stray.1)
    have := congrArg Instant.second same
    dsimp only at this
    omega
  case isFalse fits =>
    exact iff_of_true rfl fun leap => not_not.1 fun other => fits ⟨leap, other⟩

/-- Clocks that are whole minutes apart agree on the second of the minute. -/
theorem asWritten_moved {seconds : Int} (minutes : 60 ∣ seconds) (t : Instant) :
    (t.moved seconds).asWritten = t.asWritten.moved seconds := by
  have same : (t.moved seconds).second % 60 = t.second % 60 := by
    rw [moved]
    dsimp only
    omega
  have leap : (t.moved seconds).isLeap = t.isLeap := rfl
  rw [asWritten, asWritten, same, leap]
  split
  · rw [ext_iff]
    exact ⟨by dsimp only [moved]; omega, rfl⟩
  · rfl

@[simp] theorem moved_moved_neg (t : Instant) (seconds : Int) : (t.moved seconds).moved (-seconds) = t := by
  rw [ext_iff]
  exact ⟨by dsimp only [moved]; omega, rfl⟩

theorem mk?_eq_some {second : Int} {nano : Nat} :
    mk? second nano = some t ↔ t.second = second ∧ t.nano = nano := by
  rw [mk?]
  constructor
  · intro h
    split at h
    · cases h; exact ⟨rfl, rfl⟩
    · cases h
  · rintro ⟨rfl, rfl⟩
    rw [dif_pos t.nano_lt]

end Instant

/-! ## Dates -/

def WallTime.date (w : WallTime) : Date := Date.ofDayNumber (w.asUtc.second / secondsPerDay)

theorem WallTime.valid_date (w : WallTime) : w.date.Valid := Date.valid_ofDayNumber _

@[simp] theorem WallTime.dayNumber_date (w : WallTime) :
    w.date.dayNumber = w.asUtc.second / secondsPerDay :=
  Date.dayNumber_ofDayNumber _

namespace Time

open Text (padded)

/-! ## Numbers -/

section Padded

variable {width n : Nat} {c : Char}

theorem isDigit_of_mem_padded (h : c ∈ padded width n) : c.isDigit = true := by
  rcases List.mem_append.1 h with zero | digit
  · rw [List.eq_of_mem_replicate zero]
    rfl
  · exact Text.isDigit_of_mem_decimalChars digit

theorem length_padded (pos : 0 < width) (h : n < 10 ^ width) : (padded width n).length = width := by
  have := Text.length_decimalChars_le pos h
  rw [padded, List.length_append, List.length_replicate]
  omega

@[simp] theorem digitsValue_padded (width n : Nat) : digitsValue (padded width n) = n := by
  change Nat.ofDigitChars 10 (padded width n) 0 = n
  rw [padded, Nat.ofDigitChars_append, Nat.ofDigitChars_replicate_zero, Nat.mul_zero]
  exact Nat.ofDigitChars_ten_toDigits

/-- The digits of a number that is written with so many of them. -/
def Digits.ofNat (width n : Nat) (pos : 0 < width) (h : n < 10 ^ width) : Digits width :=
  ⟨padded width n, length_padded pos h, fun _ => isDigit_of_mem_padded⟩

end Padded

/-! ## Fractions -/

/-- The digits of a fraction of a second: 3, 6 or 9, or none. -/
def fractionDigits (nano : Nat) : List Char :=
  if nano = 0 then []
  else if nano % 1000000 = 0 then padded 3 (nano / 1000000)
  else if nano % 1000 = 0 then padded 6 (nano / 1000)
  else padded 9 nano

/-- Fewer than nine digits say thousandths or millionths. -/
theorem fractionNanos_padded {width n : Nat} (pos : 0 < width) (le : width ≤ 9)
    (h : n < 10 ^ width) : fractionNanos (padded width n) = 10 ^ (9 - width) * n := by
  have value := digitsValue_padded width n
  change Nat.ofDigitChars 10 _ 0 = n at value
  have length := length_padded pos h
  rw [fractionNanos, List.take_of_length_le (length.trans_le le), length]
  change Nat.ofDigitChars 10 _ 0 = _
  rw [Nat.ofDigitChars_append, value, Nat.ofDigitChars_replicate_zero]

theorem fractionChars_of_padded {width n : Nat} (pos : 0 < width) (h : n < 10 ^ width) :
    fractionChars (padded width n) = '.' :: padded width n :=
  if_neg fun none => by
    have := length_padded pos h
    rw [none, List.length_nil] at this
    omega

variable {nano : Nat}

/-- The digits of a fraction are digits, the fraction is written with them, and they say its
nanoseconds. -/
theorem fractionDigits_spec (h : nano < nanosPerSecond) :
    (∀ c ∈ fractionDigits nano, c.isDigit = true) ∧
      fractionText nano = fractionChars (fractionDigits nano) ∧
      fractionNanos (fractionDigits nano) = nano := by
  -- 3, 6 and 9 digits are cases of one width.
  have padded_spec {width n : Nat} (pos : 0 < width) (le : width ≤ 9) (small : n < 10 ^ width)
      (value : 10 ^ (9 - width) * n = nano) :
      (∀ c ∈ padded width n, c.isDigit = true) ∧
        '.' :: padded width n = fractionChars (padded width n) ∧
        fractionNanos (padded width n) = nano :=
    ⟨fun c => isDigit_of_mem_padded, (fractionChars_of_padded pos small).symm,
      (fractionNanos_padded pos le small).trans value⟩
  rw [fractionDigits, fractionText]
  split
  case isTrue zero => exact ⟨nofun, rfl, zero ▸ rfl⟩
  case isFalse =>
    split
    case isTrue millis =>
      exact padded_spec (by decide) (by decide) (Nat.div_lt_of_lt_mul h) (by omega)
    case isFalse =>
      split
      case isTrue micros =>
        exact padded_spec (by decide) (by decide) (Nat.div_lt_of_lt_mul h) (by omega)
      case isFalse => exact padded_spec (by decide) (by decide) h (by omega)

/-! ## Dates and times of day -/

/-- The numbers with which a wall-clock time is written. -/
def shownFields (w : WallTime) : Fields :=
  let second := (w.asUtc.second % secondsPerDay).toNat
  { year := w.date.year
    month := w.date.month
    day := w.date.day
    hour := second / 3600
    minute := second / 60 % 60
    second := second % 60 + w.asUtc.nano / nanosPerSecond
    nano := w.asUtc.nano % nanosPerSecond }

theorem secondOfDay_lt (second : Int) : (second % secondsPerDay).toNat < 86400 := by
  dsimp only [secondsPerDay]
  omega

theorem leap_le_one (t : Instant) : t.nano / nanosPerSecond ≤ 1 :=
  Nat.le_of_lt_succ (Nat.div_lt_of_lt_mul (Nat.mul_comm .. ▸ t.nano_lt))

/-- They are those of the time itself, or of the second that follows. -/
theorem wallTime?_shownFields {w : WallTime} (low : 0 ≤ w.date.year) (high : w.date.year ≤ 9999) :
    (shownFields w).wallTime? = some ⟨w.asUtc.asWritten⟩ := by
  have years : yearInRange w.date.year = true := by
    rw [yearInRange, Bool.and_eq_true, decide_eq_true_eq, decide_eq_true_eq]
    omega
  have second_lt := secondOfDay_lt w.asUtc.second
  have leap_le := leap_le_one w.asUtc
  have hour : (shownFields w).hour ≤ 23 := by
    dsimp only [shownFields]
    omega
  have minute : (shownFields w).minute ≤ 59 := by
    dsimp only [shownFields]
    omega
  have second : (shownFields w).second ≤ 60 := by
    dsimp only [shownFields]
    omega
  refine (if_pos ⟨years, w.valid_date, hour, minute, second⟩).trans
    (congrArg (Option.map WallTime.mk) (Instant.mk?_eq_some.2 ?_))
  change _ = w.date.dayNumber * secondsPerDay + _ ∧ _
  -- A leap second makes 60 of second 59, and of any other second just the next one.
  have leap := Instant.isLeap_iff (t := w.asUtc)
  rw [w.dayNumber_date, Instant.asWritten]
  dsimp only [shownFields, secondsPerDay, nanosPerSecond] at *
  split
  case isTrue stray =>
    rw [leap] at stray
    dsimp only
    omega
  case isFalse fits =>
    rw [leap] at fits
    omega

theorem exists_fullTime {w : WallTime} (low : 0 ≤ w.date.year) (high : w.date.year ≤ 9999) :
    ∃ t : FullTime, wallText w = t.chars ∧ t.fields = shownFields w := by
  have date := w.valid_date.le
  have second_lt := secondOfDay_lt w.asUtc.second
  have leap_le := leap_le_one w.asUtc
  obtain ⟨digits, written, value⟩ := fractionDigits_spec
    (Nat.mod_lt w.asUtc.nano (by decide : 0 < nanosPerSecond))
  let second := (w.asUtc.second % secondsPerDay).toNat
  let t : FullTime :=
    { year := .ofNat 4 w.date.year.toNat (by decide) (by omega)
      month := .ofNat 2 w.date.month (by decide) (by omega)
      day := .ofNat 2 w.date.day (by decide) (by omega)
      hour := .ofNat 2 (second / 3600) (by decide) (by omega)
      minute := .ofNat 2 (second / 60 % 60) (by decide) (by omega)
      second := .ofNat 2 (second % 60 + w.asUtc.nano / nanosPerSecond) (by decide) (by omega)
      fraction := fractionDigits (w.asUtc.nano % nanosPerSecond)
      fraction_isDigit := digits }
  refine ⟨t, ?_, ?_⟩
  · have year : yearText w.date.year = padded 4 w.date.year.toNat := if_pos ⟨low, high⟩
    change dateText w.date ++ 'T' :: clockText second w.asUtc.nano = t.chars
    simp only [dateText, year, clockText, written, FullTime.chars, FullTime.charsWith, t,
      Digits.ofNat, List.append_assoc, List.cons_append]
  · simp only [FullTime.fields, t, Digits.ofNat, digitsValue_padded, value, shownFields, second,
      Int.toNat_of_nonneg low]

/-! ## Offsets -/

variable {offset : Int}

/-- An offset of whole minutes is read as it is written. -/
theorem strictOffset?_offsetText (minutes : 60 ∣ offset) (day : offset.natAbs < 86400) :
    strictOffset? (offsetText offset) = some (offset, []) := by
  let n := (offset.natAbs + 30) / 60
  have whole : n * 60 = offset.natAbs := by omega
  let hours := Digits.ofNat 2 (n / 60) (by decide) (by omega)
  let rest := Digits.ofNat 2 (n % 60) (by decide) (by omega)
  have hoursValue : digitsValue hours.chars = n / 60 := digitsValue_padded 2 _
  have restValue : digitsValue rest.chars = n % 60 := digitsValue_padded 2 _
  have readRest := fullNumber?_digits rest []
  rw [List.append_nil] at readRest
  have inDay : n / 60 ≤ 23 ∧ n % 60 ≤ 59 := by omega
  change strictOffset? (signText offset :: (hours.chars ++ ':' :: rest.chars)) = _
  have read {sign : Int} {c : Char} (signed : ∀ cs, sign? (c :: cs) = some (sign, cs)) :
      offset? (mark? ':') (c :: (hours.chars ++ ':' :: rest.chars))
        = some (sign * (n / 60 * 3600 + n % 60 * 60 : Nat), []) := by
    simp only [offset?, signed, Option.bind_eq_bind, Option.bind_some, fullNumber?_digits, readRest,
      mark?_cons, hoursValue, restValue, if_pos inDay]
  rw [signText]
  split
  case isTrue negative =>
    refine (read fun _ => rfl).trans (congrArg (fun offset => some (offset, [])) ?_)
    omega
  case isFalse positive =>
    refine (read fun _ => rfl).trans (congrArg (fun offset => some (offset, [])) ?_)
    omega

theorem noFraction_offsetText (offset : Int) : NoFraction (offsetText offset) := by
  intro c head
  have eq : signText offset = c := Option.some.inj head
  rw [signText] at eq
  split at eq
  · subst eq; exact ⟨by decide, rfl⟩
  · subst eq; exact ⟨by decide, rfl⟩

/-- What is read of a written time and its offset. -/
theorem strict?_stampAt {t : Instant} (minutes : 60 ∣ offset) (day : offset.natAbs < 86400)
    (low : 0 ≤ (t.atOffset offset).date.year) (high : (t.atOffset offset).date.year ≤ 9999) :
    strict? (stampAt t offset) = some (t.asWritten.atOffset offset, offset) := by
  obtain ⟨full, written, fields⟩ := exists_fullTime low high
  have wall := wallTime?_shownFields low high
  rw [← fields] at wall
  rw [stampAt, written, FullTime.chars, strict?_charsWith full (Or.inl rfl)
    (noFraction_offsetText offset) (strictOffset?_offsetText minutes day) wall]
  rw [Instant.atOffset, Instant.asWritten_moved minutes]
  rfl

end Time

end HydroArchive
