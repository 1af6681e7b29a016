import HydroArchive.Proofs.Time.Localize
import HydroArchive.Proofs.Time.WallText
import HydroArchive.Proofs.Time.Written

/-!
# Times are read as they are shown

A time is shown with its offset from UTC and, where its zone has a name, with that name in brackets.
Reading it gives the same instant in the same zone again.  Since the offset says which instant is
meant, this holds in the hour that a clock shows twice too, and since a name in brackets is always
a zone with a name, UTC stays apart from the offset of zero.

The calendar of the archive lets a leap second follow any second.  One that does not follow second
59 is shown as an ordinary second, and is not read back.  Such a leap second is not only a matter of
the calendar: second 60 of a clock whose offset is no whole number of minutes is one.

## Main definitions

* `Zone.Known` — the zones in which times are shown.

## Main statements

* `Zone.Known.natAbs_offsetAt_lt` — no zone is a day ahead of UTC or behind it.
* `ZonedTime.parseTime_text` — what a time that is shown is read as.
* `ZonedTime.parseTime_text_iff` — which times are read as they are shown.
-/

namespace HydroArchive

open Time

/-! ## Offsets of the listed clocks -/

/-- The offsets that a line of a history tells of. -/
def ZoneChange.offsets : ZoneChange → List Int
  | .once _ offset => [offset]
  | .yearly _ _ turns => turns.map YearlyTurn.offset

theorem ZoneChange.mem_offsets {line : ZoneChange} {c : Int × Int} (mem : c ∈ line.expand) :
    c.2 ∈ line.offsets := by
  cases line with
  | once second offset =>
    cases List.mem_singleton.1 mem
    exact List.mem_singleton_self offset
  | yearly first last turns =>
    obtain ⟨year, -, mem⟩ := List.mem_flatMap.1 mem
    obtain ⟨t, listed, rfl⟩ := List.mem_map.1 mem
    exact List.mem_map_of_mem listed

/-- All offsets of a clock. -/
def ZoneHistory.offsets (h : ZoneHistory) : List Int :=
  h.first :: h.lines.flatMap ZoneChange.offsets

theorem ZoneHistory.offsetAt_mem (h : ZoneHistory) (second : Int) :
    h.offsetAt second ∈ h.offsets := by
  rcases offsetAfter_cases h.first h.changes second with first | ⟨c, mem, -, eq⟩
  · exact List.mem_cons.2 (Or.inl first)
  · obtain ⟨line, listed, mem⟩ := List.mem_flatMap.1 (mem_of_mem_ascending mem)
    rw [offsetAt, eq]
    exact List.mem_cons_of_mem _ (List.mem_flatMap.2 ⟨line, listed, ZoneChange.mem_offsets mem⟩)

/-- The table is checked offset by offset. -/
theorem ZoneTable.offsets_clocks : (ZoneTable.clocks.all fun clock =>
    clock.2.offsets.all fun offset => offset.natAbs < 86400) = true := by
  decide +kernel

namespace Zone

/-- The zones in which times are shown: those of the table, and offsets of less than a day. -/
inductive Known : Zone → Prop where
  | listed {name : String} {z : Zone} (found : ofName? name = some z) : Known z
  | offset {seconds : Int} (day : seconds.natAbs < 86400) : Known (.offset seconds)

/-- No zone is a day ahead of UTC or behind it. -/
theorem Known.natAbs_offsetAt_lt {z : Zone} (known : z.Known) (t : Instant) :
    (z.offsetAt t).natAbs < 86400 := by
  cases known with
  | listed found =>
    obtain ⟨h, listed, rfl⟩ := Option.map_eq_some_iff.1 found
    obtain ⟨target, mem⟩ := ZoneTable.mem_of_history? listed
    have checked := List.all_eq_true.1 ZoneTable.offsets_clocks _ mem
    exact of_decide_eq_true (List.all_eq_true.1 checked _ (h.offsetAt_mem t.second))
  | offset day => exact day

/-- A zone of the table is found under its own name. -/
theorem Known.ofName?_name {name : String} {h : ZoneHistory} (known : (named name h).Known) :
    ofName? name = some (.named name h) := by
  cases known with
  | listed found =>
    obtain ⟨h, listed, eq⟩ := Option.map_eq_some_iff.1 found
    cases eq
    rw [ofName?, Text.trim_trim, listed]
    rfl

end Zone

/-! ## Stamps -/

namespace Time

/-- The characters of times that are written in full, and of offsets. -/
def IsStampChar (c : Char) : Prop := c.isDigit = true ∨ c ∈ ['-', 'T', ':', '.', '+']

instance (c : Char) : Decidable (IsStampChar c) := inferInstanceAs (Decidable (_ ∨ _))

theorem IsStampChar.isBlank {c : Char} (h : IsStampChar c) : Text.isBlank c = false := by
  have marks : (['-', 'T', ':', '.', '+'].all fun c => !Text.isBlank c) = true := by decide
  rcases h with digit | mark
  · exact Text.isBlank_of_isDigit digit
  · simpa using List.all_eq_true.1 marks c mark

theorem FullTime.isStampChar (t : FullTime) : ∀ c ∈ t.chars, IsStampChar c := by
  have digits {width : Nat} (ds : Digits width) : ∀ c ∈ ds.chars, IsStampChar c :=
    fun c mem => Or.inl (ds.isDigit c mem)
  have dash : IsStampChar '-' := by decide
  have dateEnd : IsStampChar 'T' := by decide
  have colon : IsStampChar ':' := by decide
  have fraction : ∀ c ∈ fractionChars t.fraction, IsStampChar c := by
    rw [fractionChars]
    split
    · exact List.forall_mem_nil _
    · exact List.forall_mem_cons.2 ⟨by decide, fun c mem => Or.inl (t.fraction_isDigit c mem)⟩
  simp only [FullTime.chars, FullTime.charsWith, List.forall_mem_append, List.forall_mem_cons]
  exact ⟨digits t.year, dash, digits t.month, dash, digits t.day, dateEnd, digits t.hour, colon,
    digits t.minute, colon, digits t.second, fraction⟩

theorem isStampChar_offsetText (offset : Int) : ∀ c ∈ offsetText offset, IsStampChar c := by
  have digits (n : Nat) : ∀ c ∈ Text.padded 2 n, IsStampChar c :=
    fun c mem => Or.inl (isDigit_of_mem_padded mem)
  have sign : IsStampChar (signText offset) := by
    rw [signText]
    split
    · decide
    · decide
  have colon : IsStampChar ':' := by decide
  simp only [offsetText, List.forall_mem_append, List.forall_mem_cons]
  exact ⟨sign, digits _, colon, digits _⟩

end Time

/-! ## Zones in brackets -/

section Region

variable {cs : List Char}

theorem splitRegion?_eq_none (free : '[' ∉ cs) : splitRegion? cs = none :=
  if_neg fun h => free h.2

/-- The first bracket is the one that opens the name, so the name may have brackets too. -/
theorem splitRegion?_append (free : '[' ∉ cs) (name : List Char) :
    splitRegion? (cs ++ '[' :: (name ++ [']'])) = some (cs, name) := by
  have front : ∀ c ∈ cs, decide (c ≠ '[') = true := fun c mem =>
    decide_eq_true fun same => free (same ▸ mem)
  have last : (cs ++ '[' :: (name ++ [']'])).getLast? = some ']' := by
    rw [← List.cons_append, ← List.append_assoc, List.getLast?_concat]
  have opens : '[' ∈ cs ++ '[' :: (name ++ [']']) :=
    List.mem_append_right _ List.mem_cons_self
  rw [splitRegion?, if_pos ⟨last, opens⟩, List.takeWhile_append_of_pos front,
    List.dropWhile_append_of_pos front]
  simp

end Region

/-! ## Reading what is shown -/

namespace ZonedTime

/-- The times that are shown in full: the zone is known, the offset is a whole number of minutes,
and the year on the clock of the zone has four digits. -/
structure InFull (z : ZonedTime) : Prop where
  known : z.zone.Known
  minutes : 60 ∣ z.offset
  year_nonneg : 0 ≤ (z.zone.wallTime z.instant).date.year
  year_le : (z.zone.wallTime z.instant).date.year ≤ 9999

variable {z : ZonedTime}

theorem InFull.isStampChar (full : z.InFull) {c : Char} (mem : c ∈ z.stamp) : IsStampChar c := by
  obtain ⟨t, written, -⟩ := exists_fullTime full.year_nonneg full.year_le
  change wallText _ = _ at written
  rcases List.mem_append.1 mem with time | offset
  · exact t.isStampChar c (written ▸ time)
  · exact isStampChar_offsetText _ c offset

/-- The archive's calendar covers the instant that is read. -/
theorem InFull.inRange (full : z.InFull) : z.instant.asWritten.inRange = true := by
  have day := full.known.natAbs_offsetAt_lt z.instant
  have dates := (z.zone.wallTime z.instant).valid_date.dayNumber_mem full.year_nonneg full.year_le
  have first : Calendar.daysBeforeYear 0 = -366 := by decide
  have last : Calendar.daysBeforeYear (9999 + 1) = 3652059 := by decide
  rw [WallTime.dayNumber_date, first, last, Calendar.epochDay] at dates
  rw [Instant.inRange_iff, Instant.asWritten]
  dsimp only [Zone.wallTime, Instant.atOffset, Instant.moved, secondsPerDay, Instant.firstSecond,
    Instant.lastSecond] at *
  split
  · dsimp only
    omega
  · omega

/-- The stamp alone says which instant is meant. -/
theorem InFull.readWithOffset?_stamp (full : z.InFull) :
    readWithOffset? z.stamp = some (z.instant.asWritten, z.offset) := by
  have read := strict?_stampAt full.minutes (full.known.natAbs_offsetAt_lt z.instant)
    full.year_nonneg full.year_le
  have back : (z.instant.asWritten.atOffset z.offset).atOffset z.offset = z.instant.asWritten :=
    Instant.moved_moved_neg _ _
  rw [readWithOffset?, stamp, read]
  change (if _ then _ else _) = _
  rw [back, if_pos full.inRange]

/-- No blanks stand in front of a stamp. -/
theorem InFull.head?_stamp (full : z.InFull) {rest : List Char} {c : Char}
    (head : (z.stamp ++ rest).head? = some c) : Text.isBlank c = false := by
  have filled : z.stamp ≠ [] := List.append_ne_nil_of_right_ne_nil _ (List.cons_ne_nil _ _)
  rw [List.head?_append_of_ne_nil _ filled] at head
  exact (full.isStampChar (List.mem_of_head? head)).isBlank

/-- A stamp ends in a digit, for no offset is written as `Z`. -/
theorem InFull.endsInDigit_stamp (full : z.InFull) : endsInDigit z.stamp = true := by
  rcases endsInOffset_of_readWithOffset? full.readWithOffset?_stamp with digit | ⟨zulu, -⟩
  · exact digit
  · have free {c : Char} (foreign : ¬ IsStampChar c) : z.stamp.getLast? ≠ some c :=
      fun last => foreign (full.isStampChar (List.mem_of_getLast? last))
    have upper : z.stamp.getLast? ≠ some 'Z' := free (by decide)
    have lower : z.stamp.getLast? ≠ some 'z' := free (by decide)
    simp [endsInZ, upper, lower] at zulu

theorem InFull.bracket_not_mem_stamp (full : z.InFull) : '[' ∉ z.stamp := fun mem =>
  absurd (full.isStampChar mem) (by decide)

/-- What a time that is shown is read as. -/
theorem parseTime_text (full : z.InFull) :
    parseTime z.text = .ok (.zoned ⟨z.instant.asWritten, z.zone⟩) := by
  -- The stamp says the instant in either case; the brackets decide between a name and an offset.
  have read := full.readWithOffset?_stamp
  refine parseTime_eq_ok.2 ?_
  obtain ⟨t, zone⟩ := z
  cases zone with
  | named name history =>
    have known := full.known.ofName?_name
    have trimmed : written (text ⟨t, .named name history⟩)
        = stamp ⟨t, .named name history⟩ ++ '[' :: (name.toList ++ [']']) := by
      rw [written, text, String.toList_ofList]
      dsimp only
      refine Text.trimChars_eq_self_of_ends (fun c head => full.head?_stamp head) fun c last => ?_
      rw [← List.cons_append, ← List.append_assoc, List.getLast?_concat] at last
      cases last
      rfl
    refine .instantIn (trimmed ▸ splitRegion?_append full.bracket_not_mem_stamp _) ?_ read
    rw [String.ofList_toList]
    exact known
  | offset seconds =>
    have trimmed : written (text ⟨t, .offset seconds⟩) = stamp ⟨t, .offset seconds⟩ := by
      rw [written, text, String.toList_ofList]
      exact Text.trimChars_eq_self fun c mem => (full.isStampChar mem).isBlank
    exact .atOffset (trimmed ▸ splitRegion?_eq_none full.bracket_not_mem_stamp)
      (trimmed ▸ full.endsInDigit_stamp) (trimmed ▸ read)

/-- A time is read as it is shown, unless it is in a leap second that does not follow second 59. -/
theorem parseTime_text_iff (full : z.InFull) : parseTime z.text = .ok (.zoned z) ↔
    (z.instant.isLeap = true → z.instant.second % 60 = 59) := by
  rw [parseTime_text full, ← Instant.asWritten_eq_iff]
  constructor
  · intro same
    exact congrArg ZonedTime.instant (ParsedTime.zoned.inj (Except.ok.inj same))
  · intro same
    rw [same]

/-- The leap second at the end of 2016. -/
def newYearLeap : Instant := ⟨1483228799, 1500000000, by decide⟩

/-- In Tokyo it came at nine in the morning, and it is read as it is shown there. -/
theorem parseTime_text_newYearLeap : ∃ z : ZonedTime, Zone.ofName? "Asia/Tokyo" = some z.zone ∧
    z.instant = newYearLeap ∧ z.InFull ∧ parseTime z.text = .ok (.zoned z) := by
  have inTokyo : ((Zone.ofName? "Asia/Tokyo").map fun zone =>
      (zone.offsetAt newYearLeap, (zone.wallTime newYearLeap).date.year)) = some (32400, 2017) := by
    decide +kernel
  obtain ⟨zone, known, facts⟩ := Option.map_eq_some_iff.1 inTokyo
  obtain ⟨offset, year⟩ := Prod.mk.inj facts
  have minutes : 60 ∣ zone.offsetAt newYearLeap := by
    rw [offset]
    decide
  have full : InFull ⟨newYearLeap, zone⟩ :=
    ⟨.listed known, minutes, by rw [year]; decide, by rw [year]; decide⟩
  have endsMinute : newYearLeap.second % 60 = 59 := by decide
  exact ⟨_, known, rfl, full, (parseTime_text_iff full).2 fun _ => endsMinute⟩

/-- Half a second into second 60 of the first minute of 1890, on the clock of Calcutta.  It follows
second 49 in UTC. -/
def strayLeap : Instant := ⟨-2524540811, 1500000000, by decide⟩

/-- A written time can mean such an instant. -/
example : ((parseTime "1890-01-01T00:00:60.5[Asia/Kolkata]").toOption.bind fun
    | .zoned z => some z.instant
    | .wall _ => none) = some strayLeap := by
  decide +kernel

/-- In UTC it is shown as the middle of second 50, so not all times are read as they are shown. -/
theorem not_parseTime_text_strayLeap :
    ¬ ∀ z : ZonedTime, z.InFull → parseTime z.text = .ok (.zoned z) := by
  intro h
  have utc : Zone.ofName? "UTC" = some .utc := by rfl
  have full : InFull ⟨strayLeap, .utc⟩ :=
    ⟨.listed utc, by decide, by decide, by decide⟩
  have same := (parseTime_text full).symm.trans (h _ full)
  have stays : strayLeap.asWritten = strayLeap :=
    congrArg ZonedTime.instant (ParsedTime.zoned.inj (Except.ok.inj same))
  exact absurd stays (by decide)

end ZonedTime

end HydroArchive
