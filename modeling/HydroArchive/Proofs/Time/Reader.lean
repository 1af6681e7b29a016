import HydroArchive.Time.Window
import Mathlib.Data.List.TakeWhile

/-!
# How written times end

A reader takes the front of a text and leaves the rest.  What is read last is a number, of the time
of day or of the offset, so what is read to its end ends in a digit.  The one exception is the `Z`
of the strict grammar, which is no offset from UTC.

## Main definitions

* `endsInDigit` — whether a text ends in a digit.
* `TakesDigit` — that what a reader takes ends in a digit.

## Main statements

* `endsInDigit_of_lenient?`, `endsInDigit_of_local?` — how times of the lenient grammar end.
* `strictOffset?_cases` — how offsets of the strict grammar end.
-/

namespace HydroArchive

namespace Time

variable {cs rest : List Char} {f : Fields} {offset : Int} {w : WallTime}

/-- Whether a text ends in a digit. -/
def endsInDigit (cs : List Char) : Bool := cs.getLast?.any Char.isDigit

theorem endsInDigit_iff :
    endsInDigit cs = true ↔ ∃ c, cs.getLast? = some c ∧ c.isDigit = true := by
  rw [endsInDigit, Option.any_eq_true]

theorem getLast?_of_suffix (back : rest <:+ cs) {c : Char} (h : rest.getLast? = some c) :
    cs.getLast? = some c := by
  obtain ⟨front, rfl⟩ := back
  rw [List.getLast?_append, h]
  rfl

theorem endsInDigit_of_suffix (back : rest <:+ cs) (h : endsInDigit rest = true) :
    endsInDigit cs = true := by
  obtain ⟨c, last, digit⟩ := endsInDigit_iff.1 h
  exact endsInDigit_iff.2 ⟨c, getLast?_of_suffix back last, digit⟩

/-! ## What readers leave -/

theorem eq_cons_of_mark? {c : Char} (h : mark? c cs = some rest) : cs = c :: rest := by
  cases cs with
  | nil => cases h
  | cons d cs =>
    rw [mark?] at h
    split at h
    case isTrue same => cases h; rw [same]
    case isFalse => cases h

theorem suffix_of_mark? {c : Char} (h : mark? c cs = some rest) : rest <:+ cs :=
  eq_cons_of_mark? h ▸ List.suffix_cons c rest

/-- What a reader takes off the front of a text ends in a digit. -/
def TakesDigit (cs rest : List Char) : Prop :=
  ∃ front, cs = front ++ rest ∧ endsInDigit front = true

theorem TakesDigit.suffix (h : TakesDigit cs rest) : rest <:+ cs := by
  obtain ⟨front, rfl, -⟩ := h
  exact List.suffix_append front rest

/-- More of a text may have been read before. -/
theorem TakesDigit.of_suffix {cs' : List Char} (h : TakesDigit cs' rest) (back : cs' <:+ cs) :
    TakesDigit cs rest := by
  obtain ⟨front, rfl, digit⟩ := h
  obtain ⟨before, rfl⟩ := back
  exact ⟨before ++ front, (List.append_assoc ..).symm,
    endsInDigit_of_suffix (List.suffix_append _ _) digit⟩

/-- What is read to its end ends in a digit. -/
theorem TakesDigit.endsInDigit (h : TakesDigit cs []) : endsInDigit cs = true := by
  obtain ⟨front, rfl, digit⟩ := h
  rwa [List.append_nil]

theorem endsInDigit_of_forall (ne : cs ≠ []) (digits : ∀ c ∈ cs, c.isDigit = true) :
    endsInDigit cs = true :=
  endsInDigit_iff.2 ⟨_, List.getLast?_eq_some_getLast ne, digits _ (List.getLast_mem ne)⟩

theorem takesDigit_of_number? {width n : Nat} (h : number? width cs = some (n, rest)) :
    TakesDigit cs rest := by
  rw [number?] at h
  split at h
  case isTrue => cases h
  case isFalse filled =>
    cases h
    have front : (cs.take width).takeWhile Char.isDigit <+: cs :=
      (List.takeWhile_prefix _).trans (List.take_prefix width cs)
    exact ⟨_, (List.prefix_iff_eq_append.1 front).symm,
      endsInDigit_of_forall (mt List.isEmpty_iff.2 filled) fun c mem => List.mem_takeWhile_imp mem⟩

theorem suffix_of_number? {width n : Nat} (h : number? width cs = some (n, rest)) :
    rest <:+ cs :=
  (takesDigit_of_number? h).suffix

theorem takesDigit_of_fullNumber? {width n : Nat}
    (h : fullNumber? (width + 1) cs = some (n, rest)) : TakesDigit cs rest := by
  rw [fullNumber?] at h
  split at h
  case isTrue full =>
    cases h
    have front : (cs.take (width + 1)).takeWhile Char.isDigit <+: cs :=
      (List.takeWhile_prefix _).trans (List.take_prefix _ cs)
    have eq := List.prefix_iff_eq_append.1 front
    rw [full] at eq
    exact ⟨_, eq.symm, endsInDigit_of_forall (List.ne_nil_of_length_eq_add_one full)
      fun c mem => List.mem_takeWhile_imp mem⟩
  case isFalse => cases h

theorem takesDigit_of_spacedNumber? {width n : Nat}
    (h : spacedNumber? width cs = some (n, rest)) : TakesDigit cs rest :=
  (takesDigit_of_number? h).of_suffix (List.dropWhile_suffix _)

theorem suffix_of_spacedNumber? {width n : Nat} (h : spacedNumber? width cs = some (n, rest)) :
    rest <:+ cs :=
  (takesDigit_of_spacedNumber? h).suffix

theorem suffix_of_year? {year : Int} (h : year? cs = some (year, rest)) : rest <:+ cs := by
  have trimmed := List.dropWhile_suffix (l := cs) Text.isBlank
  rw [year?] at h
  split at h
  case h_1 signed | h_2 signed =>
    obtain ⟨p, read, eq⟩ := Option.map_eq_some_iff.1 h
    cases eq
    rw [signed] at trimmed
    exact (suffix_of_number? read).trans ((List.suffix_cons _ _).trans trimmed)
  case h_3 =>
    obtain ⟨p, read, eq⟩ := Option.map_eq_some_iff.1 h
    cases eq
    exact (suffix_of_number? read).trans trimmed

theorem takesDigit_of_fraction? {nano : Nat} (h : fraction? cs = some (nano, rest)) :
    TakesDigit cs rest ∨ cs = rest := by
  rw [fraction?.eq_def] at h
  split at h
  case h_1 cs =>
    dsimp only at h
    split at h
    case isTrue => cases h
    case isFalse filled =>
      cases h
      have digits := endsInDigit_of_forall (mt List.isEmpty_iff.2 filled) fun c mem =>
        List.mem_takeWhile_imp mem
      refine Or.inl (TakesDigit.of_suffix ⟨_, ?_, digits⟩ (List.suffix_cons '.' cs))
      exact List.takeWhile_append_dropWhile.symm
  case h_2 =>
    cases h
    exact Or.inr rfl

theorem suffix_of_sign? {sign : Int} (h : sign? cs = some (sign, rest)) : rest <:+ cs := by
  rw [sign?.eq_def] at h
  split at h
  case h_4 => cases h
  all_goals
    cases h
    exact List.suffix_cons _ _

theorem takesDigit_of_upToMinutes? (h : upToMinutes? cs = some (f, rest)) :
    TakesDigit cs rest := by
  obtain ⟨⟨_, cs₁⟩, year, h⟩ := Option.bind_eq_some_iff.1 h
  obtain ⟨cs₂, dash, h⟩ := Option.bind_eq_some_iff.1 h
  obtain ⟨⟨_, cs₃⟩, month, h⟩ := Option.bind_eq_some_iff.1 h
  obtain ⟨cs₄, dash', h⟩ := Option.bind_eq_some_iff.1 h
  obtain ⟨⟨_, cs₅⟩, day, h⟩ := Option.bind_eq_some_iff.1 h
  obtain ⟨cs₆, mark, h⟩ := Option.bind_eq_some_iff.1 h
  obtain ⟨⟨_, cs₇⟩, hour, h⟩ := Option.bind_eq_some_iff.1 h
  obtain ⟨cs₈, colon, h⟩ := Option.bind_eq_some_iff.1 h
  obtain ⟨⟨_, cs₉⟩, minute, h⟩ := Option.bind_eq_some_iff.1 h
  cases h
  have date : cs₅ <:+ cs := (suffix_of_spacedNumber? day).trans <| (suffix_of_mark? dash').trans <|
    (suffix_of_spacedNumber? month).trans <| (suffix_of_mark? dash).trans (suffix_of_year? year)
  exact (takesDigit_of_spacedNumber? minute).of_suffix <| (suffix_of_mark? colon).trans <|
    (suffix_of_spacedNumber? hour).trans <| (suffix_of_mark? mark).trans date

theorem takesDigit_of_fields? (h : fields? cs = some (f, rest)) : TakesDigit cs rest := by
  obtain ⟨⟨_, cs₁⟩, minutes, h⟩ := Option.bind_eq_some_iff.1 h
  have early := takesDigit_of_upToMinutes? minutes
  dsimp only at h
  split at h
  · obtain ⟨⟨_, cs₃⟩, second, h⟩ := Option.bind_eq_some_iff.1 h
    obtain ⟨⟨_, cs₄⟩, nano, h⟩ := Option.bind_eq_some_iff.1 h
    cases h
    have late := takesDigit_of_spacedNumber? second
    have time : cs₃ <:+ cs := late.suffix.trans <| (List.suffix_cons _ _).trans early.suffix
    rcases takesDigit_of_fraction? nano with fraction | rfl
    · exact fraction.of_suffix time
    · exact late.of_suffix ((List.suffix_cons _ _).trans early.suffix)
  · cases h
    exact early

theorem suffix_of_fields? (h : fields? cs = some (f, rest)) : rest <:+ cs :=
  (takesDigit_of_fields? h).suffix

/-! ## The offset at the end -/

theorem endsInDigit_of_offset? {separator? : List Char → Option (List Char)}
    (front : ∀ {cs rest}, separator? cs = some rest → rest <:+ cs)
    (h : offset? separator? cs = some (offset, [])) : endsInDigit cs = true := by
  obtain ⟨⟨_, cs₁⟩, sign, h⟩ := Option.bind_eq_some_iff.1 h
  obtain ⟨⟨_, cs₂⟩, hours, h⟩ := Option.bind_eq_some_iff.1 h
  obtain ⟨cs₃, separator, h⟩ := Option.bind_eq_some_iff.1 h
  obtain ⟨⟨_, cs₄⟩, minutes, h⟩ := Option.bind_eq_some_iff.1 h
  dsimp only at h
  split at h
  · cases h
    have back : cs₃ <:+ cs := (front separator).trans <|
      (takesDigit_of_fullNumber? hours).suffix.trans (suffix_of_sign? sign)
    exact endsInDigit_of_suffix back (takesDigit_of_fullNumber? minutes).endsInDigit
  · cases h

/-- The offset of the strict grammar is in numbers, or it is a `Z`. -/
theorem strictOffset?_cases (h : strictOffset? cs = some (offset, [])) :
    endsInDigit cs = true ∨ ((cs = ['Z'] ∨ cs = ['z']) ∧ offset = 0) := by
  rw [strictOffset?.eq_def] at h
  split at h
  case h_1 => cases h; exact Or.inr ⟨Or.inl rfl, rfl⟩
  case h_2 => cases h; exact Or.inr ⟨Or.inr rfl, rfl⟩
  case h_3 => exact Or.inl (endsInDigit_of_offset? suffix_of_mark? h)

/-- The lenient grammar has no `Z`. -/
theorem endsInDigit_of_lenient? (h : lenient? cs = some (w, offset)) : endsInDigit cs = true := by
  obtain ⟨⟨_, cs₁⟩, fields, h⟩ := Option.bind_eq_some_iff.1 h
  obtain ⟨⟨_, cs₂⟩, found, h⟩ := Option.bind_eq_some_iff.1 h
  obtain ⟨wall, -, h⟩ := Option.bind_eq_some_iff.1 h
  split at h
  case isTrue atEnd =>
    rw [List.isEmpty_iff.1 atEnd] at found
    have digit := endsInDigit_of_offset?
      (fun h => Option.some.inj h ▸ List.dropWhile_suffix _) found
    exact endsInDigit_of_suffix
      ((List.dropWhile_suffix _).trans (suffix_of_fields? fields)) digit
  case isFalse => cases h

/-- Nor has it one for a time without an offset. -/
theorem endsInDigit_of_local? (h : local? cs = some w) : endsInDigit cs = true := by
  obtain ⟨⟨_, rest⟩, fields, h⟩ := Option.bind_eq_some_iff.1 h
  dsimp only at h
  split at h
  case isTrue atEnd =>
    rw [List.isEmpty_iff.1 atEnd] at fields
    exact (takesDigit_of_fields? fields).endsInDigit
  case isFalse => cases h

end Time

theorem endsInZ_of_endsInDigit {cs : List Char} (h : Time.endsInDigit cs = true) :
    endsInZ cs = false := by
  obtain ⟨c, last, digit⟩ := Time.endsInDigit_iff.1 h
  have upper : c ≠ 'Z' := by rintro rfl; cases digit
  have lower : c ≠ 'z' := by rintro rfl; cases digit
  simp [endsInZ, last, upper, lower]

end HydroArchive
