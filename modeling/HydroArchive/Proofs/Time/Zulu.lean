import HydroArchive.Proofs.Time.WallText
import HydroArchive.Proofs.Time.Written

/-!
# Times with `Z` behind them

A time without an offset says what some clock reads.  With `Z` behind it, it should say when a clock
in UTC reads that, whatever the form of the time.  This is so for times that are written in full.
All others are refused: a time without seconds is, and so is one with blanks among its numbers or
behind them.  They belong to the lenient grammar alone, and only the strict one has the `Z`.

## Main definitions

* `WrittenInFull` — the times that the strict grammar takes with an offset behind them.

## Main statements

* `Time.Fields.inRange_of_wallTime?` — no wall-clock time is outside the calendar of the archive.
* `strict?_append_zulu` — what the strict grammar takes in front of a `Z`.
* `parseTime_append_zulu_iff` — which times can have a `Z` behind them.
-/

namespace HydroArchive

namespace Time

variable {cs tail : List Char} {offset : Int} {w : WallTime}

/-- No wall-clock time is outside the calendar of the archive. -/
theorem Fields.inRange_of_wallTime? {f : Fields} (h : f.wallTime? = some w) :
    w.asUtc.inRange = true := by
  rw [Fields.wallTime?] at h
  dsimp only at h
  split at h
  case isTrue fits =>
    obtain ⟨years, valid, hour, minute, second⟩ := fits
    obtain ⟨t, made, rfl⟩ := Option.map_eq_some_iff.1 h
    obtain ⟨eq, -⟩ := Instant.mk?_eq_some.1 made
    simp only [yearInRange, Bool.and_eq_true, decide_eq_true_eq] at years
    have days := valid.dayNumber_mem years.1 years.2
    have first : Calendar.daysBeforeYear (-262143) = -95746130 := by decide
    have last : Calendar.daysBeforeYear (262142 + 1) = 95745399 := by decide
    rw [first, last, Calendar.epochDay] at days
    rw [Instant.inRange_iff, eq]
    dsimp only [Instant.firstSecond, Instant.lastSecond, secondsPerDay] at days ⊢
    omega
  case isFalse => cases h

/-! ## The end of a time -/

theorem trimRight_of_endsInDigit (h : endsInDigit cs = true) : Text.trimRight cs = cs := by
  obtain ⟨c, last, digit⟩ := endsInDigit_iff.1 h
  rw [Text.trimRight, Text.dropWhile_isBlank, List.reverse_reverse]
  intro d head
  rw [List.head?_reverse, last] at head
  cases head
  exact Text.isBlank_of_isDigit digit

@[simp] theorem endsInDigit_append_zulu (cs : List Char) : endsInDigit (cs ++ ['Z']) = false := by
  rw [endsInDigit, List.getLast?_concat]
  rfl

/-! ## The strict grammar -/

/-- The offset of a time that ends in `Z` is that `Z` alone. -/
theorem eq_zulu_of_strictOffset? (h : strictOffset? tail = some (offset, []))
    (back : tail <:+ cs ++ ['Z']) : tail = ['Z'] ∧ offset = 0 := by
  rcases strictOffset?_cases h with digit | ⟨rfl | rfl, rfl⟩
  · cases (endsInDigit_of_suffix back digit).symm.trans (endsInDigit_append_zulu cs)
  · exact ⟨rfl, rfl⟩
  · have last := getLast?_of_suffix back rfl
    rw [List.getLast?_concat] at last
    cases last

/-- In front of a `Z`, the strict grammar takes the times that are written in full. -/
theorem strict?_append_zulu : strict? (cs ++ ['Z']) = some (w, offset) ↔
    offset = 0 ∧ ∃ (t : FullTime) (mark : Char), IsDateEnd mark ∧ cs = t.charsWith mark ∧
      t.fields.wallTime? = some w := by
  constructor
  · intro h
    obtain ⟨t, mark, tail, dateEnd, eq, wall, read⟩ := exists_of_strict? h
    obtain ⟨rfl, rfl⟩ := eq_zulu_of_strictOffset? read ⟨_, eq.symm⟩
    exact ⟨rfl, t, mark, dateEnd, List.append_cancel_right eq, wall⟩
  · rintro ⟨rfl, t, mark, dateEnd, rfl, wall⟩
    have stop : NoFraction ['Z'] := by
      rintro c ⟨⟩
      decide
    exact strict?_charsWith t dateEnd stop rfl wall

end Time

open Time

variable {text : String} {w : WallTime} {cs : List Char} {t : Instant} {offset : Int}

/-- A time that is read with a `Z` at its end is written in full. -/
theorem readWithOffset?_append_zulu : readWithOffset? (cs ++ ['Z']) = some (t, offset) ↔
    offset = 0 ∧ ∃ (full : FullTime) (mark : Char), IsDateEnd mark ∧ cs = full.charsWith mark ∧
      full.fields.wallTime? = some ⟨t⟩ := by
  have strictOnly : (strict? (cs ++ ['Z'])).or (lenient? (cs ++ ['Z'])) = strict? (cs ++ ['Z']) := by
    cases lenient : lenient? (cs ++ ['Z']) with
    | none => exact Option.or_none
    | some found =>
      cases (endsInDigit_of_lenient? lenient).symm.trans (endsInDigit_append_zulu cs)
  have unmoved (w : WallTime) : w.atOffset 0 = w.asUtc :=
    Instant.ext_iff.2 ⟨Int.add_zero _, rfl⟩
  rw [readWithOffset?, strictOnly]
  constructor
  · intro h
    obtain ⟨⟨w, seconds⟩, read, h⟩ := Option.bind_eq_some_iff.1 h
    obtain ⟨rfl, full, mark, dateEnd, eq, wall⟩ := strict?_append_zulu.1 read
    dsimp only at h
    split at h
    case isTrue =>
      cases h
      rw [unmoved]
      exact ⟨rfl, full, mark, dateEnd, eq, wall⟩
    case isFalse => cases h
  · rintro ⟨rfl, full, mark, dateEnd, rfl, wall⟩
    have read := strict?_append_zulu.2 ⟨rfl, full, mark, dateEnd, rfl, wall⟩
    rw [read]
    change (if _ then _ else _) = _
    rw [unmoved, if_pos (Fields.inRange_of_wallTime? wall)]

/-- Only the blanks in front of a time with a `Z` at its end are trimmed off. -/
theorem written_append_zulu (text : String) :
    written (text ++ "Z") = Text.trimLeft text.toList ++ ['Z'] := by
  have front : (text.toList ++ ['Z']).dropWhile Text.isBlank
      = text.toList.dropWhile Text.isBlank ++ ['Z'] := by
    rw [List.dropWhile_append]
    split
    case isTrue none => rw [List.isEmpty_iff.1 none]; rfl
    case isFalse => rfl
  have zulu : (text ++ "Z").toList = text.toList ++ ['Z'] := String.toList_append
  rw [written, zulu, Text.trimChars, Text.trimLeft, front, Text.trimRight, Text.dropWhile_isBlank,
    List.reverse_reverse, Text.trimLeft]
  intro c head
  rw [List.head?_reverse, List.getLast?_concat] at head
  cases head
  rfl

/-- A time with a `Z` at its end is read by the strict grammar or not at all. -/
theorem parseTime_append_zulu (text : String) : parseTime (text ++ "Z") =
    match readWithOffset? (Text.trimLeft text.toList ++ ['Z']) with
    | some (t, _) => .ok (.zoned ⟨t, .utc⟩)
    | none => .error (.refused (.unparseable (text ++ "Z"))) := by
  have split : splitRegion? (written (text ++ "Z")) = none := by
    refine if_neg fun bracket => ?_
    rw [written_append_zulu, List.getLast?_concat] at bracket
    cases bracket.1
  have ends : endsInZ (Text.trimLeft text.toList ++ ['Z']) = true := by
    rw [endsInZ, List.getLast?_concat]
    rfl
  have noLocal : local? (Text.trimLeft text.toList ++ ['Z']) = none := by
    cases read : local? (Text.trimLeft text.toList ++ ['Z']) with
    | none => rfl
    | some w => cases (endsInDigit_of_local? read).symm.trans (endsInDigit_append_zulu _)
  rw [parseTime_of_none split, written_append_zulu, readBody, noLocal, ends]
  rfl

/-- The times that can have an offset behind them in the strict grammar: those that are written in
full, with no more than blanks in front. -/
def WrittenInFull (text : String) : Prop :=
  ∃ t : FullTime, Text.trimLeft text.toList = t.chars

theorem written_of_trimLeft {full : FullTime} {mark : Char}
    (eq : Text.trimLeft text.toList = full.charsWith mark) : written text = full.charsWith mark := by
  rw [written, Text.trimChars, eq, trimRight_of_endsInDigit (full.endsInDigit_charsWith mark)]

/-- A time that is written in full is read with a `Z` at its end, as the clock reading that it
is without. -/
theorem WrittenInFull.readWithOffset?_append_zulu (full : WrittenInFull text)
    (clock : local? (written text) = some w) :
    readWithOffset? (Text.trimLeft text.toList ++ ['Z']) = some (w.asUtc, 0) := by
  obtain ⟨t, eq⟩ := full
  rw [written_of_trimLeft eq, ← FullTime.chars, local?_chars] at clock
  exact HydroArchive.readWithOffset?_append_zulu.2 ⟨rfl, t, 'T', Or.inl rfl, eq, clock⟩

/-- Of the times that say what a clock reads, no others are. -/
theorem writtenInFull_of_readWithOffset? (clock : local? (written text) = some w)
    (h : readWithOffset? (Text.trimLeft text.toList ++ ['Z']) = some (t, offset)) :
    WrittenInFull text := by
  obtain ⟨-, full, mark, -, eq, -⟩ := readWithOffset?_append_zulu.1 h
  rw [written_of_trimLeft eq] at clock
  obtain ⟨p, fields, -⟩ := Option.bind_eq_some_iff.1 clock
  -- The strict grammar would also take a `t` or a blank between date and time of day.
  rw [← List.append_nil (full.charsWith mark)] at fields
  obtain rfl := eq_of_fields?_charsWith fields
  exact ⟨full, eq⟩

/-- Which times can have a `Z` behind them, and then say when a clock in UTC reads them.  All others
are refused. -/
theorem parseTime_append_zulu_iff (read : parseTime text = .ok (.wall w)) :
    (parseTime (text ++ "Z") = .ok (.zoned ⟨w.asUtc, .utc⟩) ↔ WrittenInFull text) ∧
      (¬ WrittenInFull text →
        parseTime (text ++ "Z") = .error (.refused (.unparseable (text ++ "Z")))) := by
  have clock : local? (written text) = some w := by
    cases parseTime_eq_ok.1 read with
    | clock split bare read => exact read
  rw [parseTime_append_zulu]
  cases found : readWithOffset? (Text.trimLeft text.toList ++ ['Z']) with
  | some p =>
    have full := writtenInFull_of_readWithOffset? clock found
    obtain rfl := Option.some.inj (found.symm.trans (full.readWithOffset?_append_zulu clock))
    exact ⟨iff_of_true rfl full, fun refused => absurd full refused⟩
  | none =>
    have refused : ¬ WrittenInFull text := fun full => by
      cases found.symm.trans (full.readWithOffset?_append_zulu clock)
    exact ⟨iff_of_false nofun refused, fun _ => rfl⟩

/-- Half a second past eight in the evening, with blanks in front. -/
theorem parseTime_append_zulu_evening :
    parseTime "  2021-06-10T20:00:00.500" = .ok (.wall ⟨⟨1623355200, 500000000, by decide⟩⟩) ∧
      parseTime ("  2021-06-10T20:00:00.500" ++ "Z")
        = .ok (.zoned ⟨⟨1623355200, 500000000, by decide⟩, .utc⟩) := by
  have read : parseTime "  2021-06-10T20:00:00.500"
      = .ok (.wall ⟨⟨1623355200, 500000000, by decide⟩⟩) :=
    parseTime_eq_ok.2 (.clock (by decide +kernel) (by decide +kernel) (by decide +kernel))
  let full : FullTime :=
    { year := .ofNat 4 2021 (by decide) (by decide)
      month := .ofNat 2 6 (by decide) (by decide)
      day := .ofNat 2 10 (by decide) (by decide)
      hour := .ofNat 2 20 (by decide) (by decide)
      minute := .ofNat 2 0 (by decide) (by decide)
      second := .ofNat 2 0 (by decide) (by decide)
      fraction := fractionDigits 500000000
      fraction_isDigit := (fractionDigits_spec (by decide)).1 }
  have written : Text.trimLeft "  2021-06-10T20:00:00.500".toList = full.chars := by decide +kernel
  exact ⟨read, (parseTime_append_zulu_iff read).1.2 ⟨full, written⟩⟩

/-- A time without seconds can have an offset in numbers behind it. -/
example : readWithOffset? "2021-06-10T20:00+00:00".toList = some (.ofSecond 1623355200, 0) := by
  decide +kernel

/-- But with a `Z` it is refused, so not all times can have one. -/
theorem not_parseTime_append_zulu_minutes :
    ¬ ∀ (text : String) (w : WallTime), parseTime text = .ok (.wall w) →
      parseTime (text ++ "Z") = .ok (.zoned ⟨w.asUtc, .utc⟩) := by
  intro h
  have read : parseTime "2021-06-10T20:00" = .ok (.wall ⟨.ofSecond 1623355200⟩) :=
    parseTime_eq_ok.2 (.clock (by decide +kernel) (by decide +kernel) (by decide +kernel))
  have accepted := h _ _ read
  have unread : readWithOffset? (Text.trimLeft "2021-06-10T20:00".toList ++ ['Z']) = none := by
    decide +kernel
  rw [parseTime_append_zulu, unread] at accepted
  cases accepted

end HydroArchive
