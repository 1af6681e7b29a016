import HydroArchive.Proofs.Text.Decimal
import HydroArchive.Proofs.Time.Reader

/-!
# Times written in full

A date and a time of day are written in full when every number has all its digits, as in
`2021-06-10T13:00:00` or `2021-06-10T13:00:00.5`.  The strict grammar takes nothing else, apart from
the mark between date and time of day; the lenient grammar reads the same numbers from it.

## Main definitions

* `Digits` — digits of a number, so many of them.
* `FullTime` — the digits of a time that is written in full, and how it is written.
* `EndsInOffset` — the ways in which a time with an offset can end.

## Main statements

* `strict?_charsWith`, `exists_of_strict?` — what the strict grammar takes.
* `fields?_chars` — what the lenient grammar makes of a time that is written in full.
* `endsInOffset_of_readWithOffset?` — how every time ends that is read with an offset.
-/

namespace HydroArchive

namespace Time

/-! ## Digits -/

/-- The digits of a number, so many of them. -/
structure Digits (width : Nat) where
  chars : List Char
  length_eq : chars.length = width
  isDigit : ∀ c ∈ chars, c.isDigit = true

variable {width n : Nat} {cs rest : List Char} {c : Char}

theorem takeWhile_isDigit {ds : List Char} (digits : ∀ c ∈ ds, c.isDigit = true)
    (stop : ∀ c, rest.head? = some c → c.isDigit = false) :
    (ds ++ rest).takeWhile Char.isDigit = ds := by
  rw [List.takeWhile_append_of_pos digits]
  cases rest with
  | nil => rw [List.takeWhile_nil, List.append_nil]
  | cons c rest => rw [List.takeWhile_cons, stop c rfl]; exact List.append_nil _

@[simp] theorem Digits.takeWhile_take (ds : Digits width) (rest : List Char) :
    ((ds.chars ++ rest).take width).takeWhile Char.isDigit = ds.chars := by
  rw [List.take_left' ds.length_eq]
  exact List.takeWhile_eq_self_iff.2 ds.isDigit

/-- A number of full width is read off its digits, whatever follows. -/
theorem fullNumber?_eq_some : fullNumber? width cs = some (n, rest) ↔
    ∃ ds : Digits width, cs = ds.chars ++ rest ∧ n = digitsValue ds.chars := by
  constructor
  · intro h
    rw [fullNumber?] at h
    split at h
    case isTrue full =>
      cases h
      have front : (cs.take width).takeWhile Char.isDigit <+: cs.take width :=
        List.takeWhile_prefix _
      have all : (cs.take width).takeWhile Char.isDigit = cs.take width :=
        front.eq_of_length_le (by rw [full]; exact List.length_take_le _ _)
      refine ⟨⟨_, full, fun c mem => List.mem_takeWhile_imp mem⟩, ?_, rfl⟩
      dsimp only
      rw [all, List.take_append_drop]
    case isFalse => cases h
  · rintro ⟨ds, rfl, rfl⟩
    simp only [fullNumber?, ds.takeWhile_take, ds.length_eq, if_true,
      List.drop_left' ds.length_eq]

@[simp] theorem fullNumber?_digits (ds : Digits width) (rest : List Char) :
    fullNumber? width (ds.chars ++ rest) = some (digitsValue ds.chars, rest) :=
  fullNumber?_eq_some.2 ⟨ds, rfl, rfl⟩

@[simp] theorem number?_digits (ds : Digits (width + 1)) (rest : List Char) :
    number? (width + 1) (ds.chars ++ rest) = some (digitsValue ds.chars, rest) := by
  have filled : ds.chars.isEmpty = false :=
    List.isEmpty_eq_false_iff.2 (List.ne_nil_of_length_eq_add_one ds.length_eq)
  simp only [number?, ds.takeWhile_take, filled, Bool.false_eq_true, if_false,
    List.drop_left]

/-- The first character is a digit. -/
theorem Digits.exists_cons (ds : Digits (width + 1)) (rest : List Char) :
    ∃ c cs, ds.chars ++ rest = c :: cs ∧ c.isDigit = true := by
  obtain ⟨c, cs, eq⟩ := List.exists_cons_of_length_eq_add_one ds.length_eq
  exact ⟨c, cs ++ rest, by rw [eq, List.cons_append],
    ds.isDigit c (by rw [eq]; exact List.mem_cons_self)⟩

/-- No blanks stand in front of digits. -/
@[simp] theorem Digits.dropWhile_isBlank (ds : Digits (width + 1)) (rest : List Char) :
    (ds.chars ++ rest).dropWhile Text.isBlank = ds.chars ++ rest := by
  obtain ⟨c, cs, eq, digit⟩ := ds.exists_cons rest
  refine Text.dropWhile_isBlank fun d head => ?_
  rw [eq] at head
  cases head
  exact Text.isBlank_of_isDigit digit

@[simp] theorem spacedNumber?_digits (ds : Digits (width + 1)) (rest : List Char) :
    spacedNumber? (width + 1) (ds.chars ++ rest) = some (digitsValue ds.chars, rest) := by
  rw [spacedNumber?, ds.dropWhile_isBlank, number?_digits]

/-- A year of four digits has no sign. -/
@[simp] theorem year?_digits (ds : Digits 4) (rest : List Char) :
    year? (ds.chars ++ rest) = some ((digitsValue ds.chars : Int), rest) := by
  obtain ⟨c, cs, eq, digit⟩ := ds.exists_cons rest
  have number := number?_digits ds rest
  have minus : c ≠ '-' := by rintro rfl; cases digit
  have plus : c ≠ '+' := by rintro rfl; cases digit
  rw [year?, ds.dropWhile_isBlank]
  rw [eq] at number ⊢
  split
  case h_1 same => exact absurd (List.cons.inj same).1 minus
  case h_2 same => exact absurd (List.cons.inj same).1 plus
  case h_3 => rw [number]; rfl

/-! ## Marks and fractions -/

@[simp] theorem mark?_cons (c : Char) (rest : List Char) : mark? c (c :: rest) = some rest :=
  if_pos rfl

theorem mark?_eq_some : mark? c cs = some rest ↔ cs = c :: rest :=
  ⟨eq_cons_of_mark?, fun h => h ▸ mark?_cons c rest⟩

/-- The marks between date and time of day that the strict grammar takes. -/
def IsDateEnd (mark : Char) : Prop := mark = 'T' ∨ mark = 't' ∨ mark = ' '

theorem dateEnd?_eq_some :
    dateEnd? cs = some rest ↔ ∃ mark, IsDateEnd mark ∧ cs = mark :: rest := by
  constructor
  · intro h
    rw [dateEnd?.eq_def] at h
    split at h
    case h_1 => cases h; exact ⟨_, Or.inl rfl, rfl⟩
    case h_2 => cases h; exact ⟨_, Or.inr (Or.inl rfl), rfl⟩
    case h_3 => cases h; exact ⟨_, Or.inr (Or.inr rfl), rfl⟩
    case h_4 => cases h
  · rintro ⟨mark, rfl | rfl | rfl, rfl⟩ <;> rfl

/-- How a fraction is written. -/
def fractionChars (ds : List Char) : List Char := if ds = [] then [] else '.' :: ds

/-- The nanoseconds of a fraction, of which nine digits count. -/
def fractionNanos (ds : List Char) : Nat :=
  digitsValue (ds.take 9 ++ List.replicate (9 - ds.length) '0')

/-- What follows does not go on with the fraction, or start one. -/
def NoFraction (rest : List Char) : Prop :=
  ∀ c, rest.head? = some c → c ≠ '.' ∧ c.isDigit = false

theorem fraction?_chars {ds : List Char} (digits : ∀ c ∈ ds, c.isDigit = true)
    (stop : NoFraction rest) :
    fraction? (fractionChars ds ++ rest) = some (fractionNanos ds, rest) := by
  rw [fractionChars]
  split
  case isTrue none =>
    subst none
    rw [List.nil_append, fraction?.eq_def]
    split
    case h_1 => exact absurd rfl (stop '.' rfl).1
    case h_2 => rfl
  case isFalse filled =>
    have stop : ∀ c, rest.head? = some c → c.isDigit = false := fun c h => (stop c h).2
    have behind : (ds ++ rest).dropWhile Char.isDigit = rest := by
      have whole := List.takeWhile_append_dropWhile (p := Char.isDigit) (l := ds ++ rest)
      rw [takeWhile_isDigit digits stop] at whole
      exact List.append_cancel_left whole
    rw [List.cons_append, fraction?]
    simp only [takeWhile_isDigit digits stop, behind, List.isEmpty_iff, filled, if_false]
    rfl

theorem exists_of_fraction? {nano : Nat} (h : fraction? cs = some (nano, rest)) :
    ∃ ds, (∀ c ∈ ds, c.isDigit = true) ∧ cs = fractionChars ds ++ rest ∧
      nano = fractionNanos ds := by
  rw [fraction?.eq_def] at h
  split at h
  case h_1 cs =>
    dsimp only at h
    split at h
    case isTrue => cases h
    case isFalse filled =>
      cases h
      refine ⟨cs.takeWhile Char.isDigit, fun c mem => List.mem_takeWhile_imp mem, ?_, rfl⟩
      rw [fractionChars, if_neg (mt List.isEmpty_iff.2 filled), List.cons_append,
        List.takeWhile_append_dropWhile]
  case h_2 =>
    cases h
    exact ⟨[], List.forall_mem_nil _, rfl, rfl⟩

/-! ## Times -/

/-- The digits of a date and a time of day that are written in full. -/
structure FullTime where
  year : Digits 4
  month : Digits 2
  day : Digits 2
  hour : Digits 2
  minute : Digits 2
  second : Digits 2
  /-- There are none when no fraction is written. -/
  fraction : List Char
  fraction_isDigit : ∀ c ∈ fraction, c.isDigit = true

namespace FullTime

/-- The time as it is written, with a mark between date and time of day. -/
def charsWith (t : FullTime) (mark : Char) : List Char :=
  t.year.chars ++ '-' :: (t.month.chars ++ '-' :: (t.day.chars ++ mark ::
    (t.hour.chars ++ ':' :: (t.minute.chars ++ ':' ::
      (t.second.chars ++ fractionChars t.fraction)))))

/-- The time as it is written. -/
def chars (t : FullTime) : List Char := t.charsWith 'T'

/-- The numbers that it says. -/
def fields (t : FullTime) : Fields where
  year := digitsValue t.year.chars
  month := digitsValue t.month.chars
  day := digitsValue t.day.chars
  hour := digitsValue t.hour.chars
  minute := digitsValue t.minute.chars
  second := digitsValue t.second.chars
  nano := fractionNanos t.fraction

end FullTime

variable {w : WallTime} {offset : Int}

/-- The strict grammar takes a time that is written in full, and an offset behind it. -/
theorem strict?_charsWith (t : FullTime) {mark : Char} (dateEnd : IsDateEnd mark)
    {tail : List Char} (stop : NoFraction tail) (read : strictOffset? tail = some (offset, []))
    (wall : t.fields.wallTime? = some w) : strict? (t.charsWith mark ++ tail) = some (w, offset) := by
  simp only [FullTime.charsWith, List.append_assoc, List.cons_append]
  refine Option.bind_eq_some_iff.2 ⟨_, fullNumber?_digits t.year _, ?_⟩
  refine Option.bind_eq_some_iff.2 ⟨_, mark?_cons '-' _, ?_⟩
  refine Option.bind_eq_some_iff.2 ⟨_, fullNumber?_digits t.month _, ?_⟩
  refine Option.bind_eq_some_iff.2 ⟨_, mark?_cons '-' _, ?_⟩
  refine Option.bind_eq_some_iff.2 ⟨_, fullNumber?_digits t.day _, ?_⟩
  refine Option.bind_eq_some_iff.2 ⟨_, dateEnd?_eq_some.2 ⟨mark, dateEnd, rfl⟩, ?_⟩
  refine Option.bind_eq_some_iff.2 ⟨_, fullNumber?_digits t.hour _, ?_⟩
  refine Option.bind_eq_some_iff.2 ⟨_, mark?_cons ':' _, ?_⟩
  refine Option.bind_eq_some_iff.2 ⟨_, fullNumber?_digits t.minute _, ?_⟩
  refine Option.bind_eq_some_iff.2 ⟨_, mark?_cons ':' _, ?_⟩
  refine Option.bind_eq_some_iff.2 ⟨_, fullNumber?_digits t.second _, ?_⟩
  refine Option.bind_eq_some_iff.2 ⟨_, fraction?_chars t.fraction_isDigit stop, ?_⟩
  exact Option.bind_eq_some_iff.2 ⟨_, read, Option.bind_eq_some_iff.2 ⟨w, wall, rfl⟩⟩

/-- The strict grammar takes nothing else. -/
theorem exists_of_strict? (h : strict? cs = some (w, offset)) :
    ∃ (t : FullTime) (mark : Char) (tail : List Char), IsDateEnd mark ∧
      cs = t.charsWith mark ++ tail ∧ t.fields.wallTime? = some w ∧
      strictOffset? tail = some (offset, []) := by
  -- First what each reader gave and left, then, from the front, what that says about the text.
  obtain ⟨⟨_, cs₁⟩, year, h⟩ := Option.bind_eq_some_iff.1 h
  obtain ⟨cs₂, dash, h⟩ := Option.bind_eq_some_iff.1 h
  obtain ⟨⟨_, cs₃⟩, month, h⟩ := Option.bind_eq_some_iff.1 h
  obtain ⟨cs₄, dash', h⟩ := Option.bind_eq_some_iff.1 h
  obtain ⟨⟨_, cs₅⟩, day, h⟩ := Option.bind_eq_some_iff.1 h
  obtain ⟨cs₆, dateEnd, h⟩ := Option.bind_eq_some_iff.1 h
  obtain ⟨⟨_, cs₇⟩, hour, h⟩ := Option.bind_eq_some_iff.1 h
  obtain ⟨cs₈, colon, h⟩ := Option.bind_eq_some_iff.1 h
  obtain ⟨⟨_, cs₉⟩, minute, h⟩ := Option.bind_eq_some_iff.1 h
  obtain ⟨cs₁₀, colon', h⟩ := Option.bind_eq_some_iff.1 h
  obtain ⟨⟨_, cs₁₁⟩, second, h⟩ := Option.bind_eq_some_iff.1 h
  obtain ⟨⟨_, cs₁₂⟩, nano, h⟩ := Option.bind_eq_some_iff.1 h
  obtain ⟨⟨_, cs₁₃⟩, found, h⟩ := Option.bind_eq_some_iff.1 h
  obtain ⟨wall, fields, h⟩ := Option.bind_eq_some_iff.1 h
  split at h
  case isFalse => cases h
  case' isTrue atEnd => cases h
  obtain ⟨y, rfl, rfl⟩ := fullNumber?_eq_some.1 year
  obtain rfl := mark?_eq_some.1 dash
  obtain ⟨mo, rfl, rfl⟩ := fullNumber?_eq_some.1 month
  obtain rfl := mark?_eq_some.1 dash'
  obtain ⟨d, rfl, rfl⟩ := fullNumber?_eq_some.1 day
  obtain ⟨mark, isDateEnd, rfl⟩ := dateEnd?_eq_some.1 dateEnd
  obtain ⟨hr, rfl, rfl⟩ := fullNumber?_eq_some.1 hour
  obtain rfl := mark?_eq_some.1 colon
  obtain ⟨mi, rfl, rfl⟩ := fullNumber?_eq_some.1 minute
  obtain rfl := mark?_eq_some.1 colon'
  obtain ⟨s, rfl, rfl⟩ := fullNumber?_eq_some.1 second
  obtain ⟨fraction, digits, rfl, rfl⟩ := exists_of_fraction? nano
  refine ⟨⟨y, mo, d, hr, mi, s, fraction, digits⟩, mark, _, isDateEnd, ?_,
    fields, List.isEmpty_iff.1 atEnd ▸ found⟩
  simp only [FullTime.charsWith, List.append_assoc, List.cons_append]

/-- The lenient grammar reads the same numbers. -/
theorem fields?_chars (t : FullTime) {tail : List Char} (stop : NoFraction tail) :
    fields? (t.chars ++ tail) = some (t.fields, tail) := by
  simp only [fields?, upToMinutes?, FullTime.chars, FullTime.charsWith, List.append_assoc,
    List.cons_append, Option.bind_eq_bind, year?_digits, spacedNumber?_digits, mark?_cons,
    fraction?_chars t.fraction_isDigit stop, Option.bind_some, FullTime.fields]

@[simp] theorem local?_chars (t : FullTime) : local? t.chars = t.fields.wallTime? := by
  have nothing : NoFraction [] := nofun
  have read := fields?_chars t nothing
  rw [List.append_nil] at read
  rw [local?, read]
  rfl

/-- Of the marks between date and time of day, it takes one only. -/
theorem eq_of_fields?_charsWith {t : FullTime} {mark : Char} {tail : List Char}
    {p : Fields × List Char} (h : fields? (t.charsWith mark ++ tail) = some p) : mark = 'T' := by
  obtain ⟨q, minutes, -⟩ := Option.bind_eq_some_iff.1 h
  simp only [upToMinutes?, FullTime.charsWith, List.append_assoc, List.cons_append,
    Option.bind_eq_bind, year?_digits, spacedNumber?_digits, mark?_cons, Option.bind_some]
    at minutes
  obtain ⟨rest, marked, -⟩ := Option.bind_eq_some_iff.1 minutes
  exact (List.cons.inj (mark?_eq_some.1 marked)).1

/-! ## The end of a time -/

@[simp] theorem FullTime.endsInDigit_charsWith (t : FullTime) (mark : Char) :
    endsInDigit (t.charsWith mark) = true := by
  have back : t.second.chars ++ fractionChars t.fraction <:+ t.charsWith mark := by
    refine ⟨t.year.chars ++ '-' :: (t.month.chars ++ '-' :: (t.day.chars ++ mark ::
      (t.hour.chars ++ ':' :: (t.minute.chars ++ [':'])))), ?_⟩
    simp only [FullTime.charsWith, List.append_assoc, List.cons_append, List.nil_append]
  refine endsInDigit_of_suffix back ?_
  rw [fractionChars]
  split
  case isTrue none =>
    rw [List.append_nil]
    exact endsInDigit_of_forall (List.ne_nil_of_length_eq_add_one t.second.length_eq)
      t.second.isDigit
  case isFalse filled =>
    refine endsInDigit_of_suffix ?_ (endsInDigit_of_forall filled t.fraction_isDigit)
    exact (List.suffix_cons '.' _).trans (List.suffix_append _ _)

/-- The ways in which a time with an offset can end. -/
def EndsInOffset (cs : List Char) (offset : Int) : Prop :=
  endsInDigit cs = true ∨ (endsInZ cs = true ∧ offset = 0)

theorem endsInOffset_of_strict? (h : strict? cs = some (w, offset)) : EndsInOffset cs offset := by
  obtain ⟨t, mark, tail, -, rfl, -, read⟩ := exists_of_strict? h
  have back : tail <:+ t.charsWith mark ++ tail := List.suffix_append _ _
  rcases strictOffset?_cases read with digit | ⟨zulu, rfl⟩
  · exact Or.inl (endsInDigit_of_suffix back digit)
  · refine Or.inr ⟨?_, rfl⟩
    rcases zulu with rfl | rfl
    · rw [endsInZ, getLast?_of_suffix back rfl]
      rfl
    · rw [endsInZ, getLast?_of_suffix back rfl]
      rfl

/-- A time with an offset ends in a digit, or it ends in `Z` and its offset is none. -/
theorem endsInOffset_of_readWithOffset? {t : Instant}
    (h : readWithOffset? cs = some (t, offset)) : EndsInOffset cs offset := by
  obtain ⟨⟨w, seconds⟩, read, h⟩ := Option.bind_eq_some_iff.1 h
  have eq : seconds = offset := by
    dsimp only at h
    split at h
    · cases h; rfl
    · cases h
  rcases Option.or_eq_some_iff.1 read with strict | ⟨-, lenient⟩
  · exact eq ▸ endsInOffset_of_strict? strict
  · exact Or.inl (endsInDigit_of_lenient? lenient)

end Time

end HydroArchive
