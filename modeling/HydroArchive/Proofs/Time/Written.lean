import HydroArchive.Proofs.Retrieval.Origin
import HydroArchive.Proofs.Time.FullTime

/-!
# What a written time says

A time may name a zone, in brackets or with a `Z` at its end; it may have an offset from UTC and
name no zone; or it may have neither, and then it says what some clock reads.  Which of these it is
can be seen from the text, and reading the text comes to just this.

## Main definitions

* `Says` — the forms of written times, and what each of them says.
* `LeadsOut` — the written times that are read out of the calendar.
* `namedZone?` — the zone that a written time names.
* `bareOffset?` — the offset of a written time that names no zone.

## Main statements

* `parseTime_eq_ok` — a time is read as what it says.
* `parseTime_eq_brokenOff` — for which times the reading breaks off.
* `cause_of_parseTime` — why a time is refused.
* `zone_of_says`, `says_of_bareOffset` — the zone of a written time.
-/

namespace HydroArchive

/-! ## Names of zones -/

theorem isOffset_of_ofName? {name : String} {z : Zone} (h : Zone.ofName? name = some z) :
    z.isOffset = false := by
  rw [Zone.ofName?] at h
  obtain ⟨history, -, rfl⟩ := Option.map_eq_some_iff.1 h
  rfl

@[simp] theorem Zone.parse_eq_ok {name : String} {z : Zone} :
    Zone.parse name = .ok z ↔ Zone.ofName? name = some z := by
  rw [Zone.parse]
  cases Zone.ofName? name <;> simp

theorem Zone.parse_eq_error {name : String} {e : TimeError} :
    Zone.parse name = .error e
      ↔ Zone.ofName? name = none ∧ e = .unknownZone (Text.trim name) := by
  rw [Zone.parse]
  cases Zone.ofName? name <;> simp [eq_comm]

theorem coveredIn_eq_ok {zone : Zone} {t? : Option Instant} {z : ZonedTime} :
    coveredIn zone t? = .ok z ↔ ∃ t, t? = some t ∧ ⟨t, zone⟩ = z := by
  cases t? <;> simp [coveredIn]

theorem coveredIn_eq_error {zone : Zone} {t? : Option Instant} {e : TimeFailure} :
    coveredIn zone t? = .error e ↔ t? = none ∧ .brokenOff = e := by
  cases t? <;> simp [coveredIn]

/-! ## Forms of written times -/

def written (text : String) : List Char := Text.trimChars text.toList

/-- The forms of written times, and what each of them says. -/
inductive Says (text : String) : ParsedTime → Prop where
  /-- An instant, and a zone in brackets to show it in. -/
  | instantIn {body name : List Char} {z : Zone} {t : Instant} {offset : Int}
      (split : splitRegion? (written text) = some (body, name))
      (known : Zone.ofName? (String.ofList name) = some z)
      (read : readWithOffset? body = some (t, offset)) : Says text (.zoned ⟨t, z⟩)
  /-- What the clock of a zone in brackets reads. -/
  | clockIn {body name : List Char} {z : Zone} {w : WallTime} {t : Instant}
      (split : splitRegion? (written text) = some (body, name))
      (known : Zone.ofName? (String.ofList name) = some z)
      (bare : readWithOffset? body = none) (read : Time.local? body = some w)
      (means : z.localize w = some t) : Says text (.zoned ⟨t, z⟩)
  /-- An instant in UTC. -/
  | zulu {t : Instant} (split : splitRegion? (written text) = none)
      (ends : endsInZ (written text) = true)
      (read : readWithOffset? (written text) = some (t, 0)) : Says text (.zoned ⟨t, .utc⟩)
  /-- An instant at an offset in numbers. -/
  | atOffset {t : Instant} {offset : Int} (split : splitRegion? (written text) = none)
      (ends : Time.endsInDigit (written text) = true)
      (read : readWithOffset? (written text) = some (t, offset)) :
      Says text (.zoned ⟨t, .offset offset⟩)
  /-- What some clock reads. -/
  | clock {w : WallTime} (split : splitRegion? (written text) = none)
      (bare : readWithOffset? (written text) = none)
      (read : Time.local? (written text) = some w) : Says text (.wall w)

/-- The written times that are read out of the calendar. -/
inductive LeadsOut (text : String) : Prop where
  /-- What the clock of a zone in brackets does not read, when an hour later the calendar has
  ended. -/
  | clockIn {body name : List Char} {z : Zone} {w : WallTime}
      (split : splitRegion? (written text) = some (body, name))
      (known : Zone.ofName? (String.ofList name) = some z)
      (bare : readWithOffset? body = none) (read : Time.local? body = some w)
      (meansNone : z.localize w = none) : LeadsOut text

/-- The zone that a written time names: the one in brackets, or UTC where the time ends in `Z`. -/
def namedZone? (text : String) : Option Zone :=
  match splitRegion? (written text) with
  | some (_, name) => Zone.ofName? (String.ofList name)
  | none => if endsInZ (written text) then some .utc else none

/-- The offset from UTC of a written time that ends in one in numbers and has no zone in brackets
behind it. -/
def bareOffset? (text : String) : Option Int :=
  if splitRegion? (written text) = none ∧ Time.endsInDigit (written text) = true then
    (readWithOffset? (written text)).map Prod.snd
  else none

/-! ## Reading -/

section Read

variable {text : String} {body : List Char} {region : Option Zone} {p : ParsedTime} {e : TimeError}

/-- What is read of a time after the zone in brackets was cut off. -/
def readBody (text : String) (body : List Char) (region : Option Zone) :
    Except TimeFailure ParsedTime :=
  match readWithOffset? body with
  | some (t, offset) =>
    .ok (.zoned ⟨t, region.getD (if endsInZ body then .utc else .offset offset)⟩)
  | none =>
    match Time.local? body with
    | some w => region.elim (.ok (.wall w)) fun z => (coveredIn z (z.localize w)).map .zoned
    | none => .error (.refused (.unparseable text))

theorem parseTime_eq (text : String) : parseTime text =
    (readRegion (written text)).mapError .refused >>= fun parts =>
      readBody text parts.1 parts.2 := by
  rw [parseTime]
  refine congrArg (_ >>= ·) (funext fun parts => ?_)
  obtain ⟨body, region⟩ := parts
  dsimp only [readBody]
  cases readWithOffset? body with
  | some found => cases region <;> rfl
  | none => cases Time.local? body <;> cases region <;> rfl

theorem parseTime_of_some {name : List Char}
    (split : splitRegion? (written text) = some (body, name)) : parseTime text =
      (Zone.parse (String.ofList name)).mapError .refused >>= fun z =>
        readBody text body (some z) := by
  rw [parseTime_eq, readRegion, split]
  change (Zone.parse (String.ofList name) >>= fun z => pure (body, some z)).mapError _ >>= _ = _
  cases Zone.parse (String.ofList name) <;> rfl

theorem parseTime_of_none (split : splitRegion? (written text) = none) :
    parseTime text = readBody text (written text) none := by
  rw [parseTime_eq, readRegion, split]
  rfl

theorem readBody_of_instant {t : Instant} {offset : Int}
    (read : readWithOffset? body = some (t, offset)) : readBody text body region =
      .ok (.zoned ⟨t, region.getD (if endsInZ body then .utc else .offset offset)⟩) := by
  rw [readBody, read]

theorem readBody_of_clock {w : WallTime} (bare : readWithOffset? body = none)
    (read : Time.local? body = some w) : readBody text body region =
      region.elim (.ok (.wall w)) fun z => (coveredIn z (z.localize w)).map .zoned := by
  rw [readBody, bare, read]

theorem readBody_of_unread (bare : readWithOffset? body = none) (unread : Time.local? body = none) :
    readBody text body region = .error (.refused (.unparseable text)) := by
  rw [readBody, bare, unread]

/-- A time is read as what it says. -/
theorem parseTime_eq_ok : parseTime text = .ok p ↔ Says text p := by
  constructor
  · intro h
    cases split : splitRegion? (written text) with
    | some parts =>
      rw [parseTime_of_some split] at h
      obtain ⟨z, known, h⟩ := bind_eq_ok.1 h
      have known := Zone.parse_eq_ok.1 (mapError_eq_ok.1 known)
      cases read : readWithOffset? parts.1 with
      | some found =>
        cases (readBody_of_instant read).symm.trans h
        exact .instantIn split known read
      | none =>
        cases clock : Time.local? parts.1 with
        | some w =>
          rw [readBody_of_clock read clock] at h
          obtain ⟨_, covered, rfl⟩ := map_eq_ok.1 h
          obtain ⟨t, means, rfl⟩ := coveredIn_eq_ok.1 covered
          exact .clockIn split known read clock means
        | none => cases (readBody_of_unread read clock).symm.trans h
    | none =>
      rw [parseTime_of_none split] at h
      cases read : readWithOffset? (written text) with
      | some found =>
        cases (readBody_of_instant read).symm.trans h
        rcases Time.endsInOffset_of_readWithOffset? read with digit | ⟨ends, offset⟩
        · rw [Option.getD_none, endsInZ_of_endsInDigit digit]
          exact .atOffset split digit read
        · rw [Option.getD_none, ends]
          exact .zulu split ends (offset ▸ read)
      | none =>
        cases clock : Time.local? (written text) with
        | some w =>
          cases (readBody_of_clock read clock).symm.trans h
          exact .clock split read clock
        | none => cases (readBody_of_unread read clock).symm.trans h
  · intro h
    cases h with
    | instantIn split known read =>
      rw [parseTime_of_some split, Zone.parse_eq_ok.2 known]
      exact readBody_of_instant read
    | clockIn split known bare read means =>
      rw [parseTime_of_some split, Zone.parse_eq_ok.2 known]
      exact (readBody_of_clock bare read).trans (by rw [Option.elim_some, means]; rfl)
    | zulu split ends read =>
      rw [parseTime_of_none split, readBody_of_instant read, ends]
      rfl
    | atOffset split ends read =>
      rw [parseTime_of_none split, readBody_of_instant read, endsInZ_of_endsInDigit ends]
      rfl
    | clock split bare read => exact (parseTime_of_none split).trans (readBody_of_clock bare read)

/-- Why no time is read: it breaks off where the time leads out of the calendar; or the time is
refused for its form or for the name of its zone. -/
theorem cause_of_parseTime {failure : TimeFailure} (h : parseTime text = .error failure) :
    (failure = .brokenOff ∧ LeadsOut text) ∨
      failure = .refused (.unparseable text) ∨ ∃ name, failure = .refused (.unknownZone name) := by
  cases split : splitRegion? (written text) with
  | some parts =>
    rw [parseTime_of_some split] at h
    rcases bind_eq_error.1 h with unknown | ⟨z, known, h⟩
    · obtain ⟨cause, unparsed, rfl⟩ := mapError_eq_error.1 unknown
      exact Or.inr (Or.inr ⟨_, congrArg _ (Zone.parse_eq_error.1 unparsed).2⟩)
    have known := Zone.parse_eq_ok.1 (mapError_eq_ok.1 known)
    cases read : readWithOffset? parts.1 with
    | some found => cases (readBody_of_instant read).symm.trans h
    | none =>
      cases clock : Time.local? parts.1 with
      | some w =>
        rw [readBody_of_clock read clock] at h
        obtain ⟨means, rfl⟩ := coveredIn_eq_error.1 (map_eq_error.1 h)
        exact Or.inl ⟨rfl, .clockIn split known read clock means⟩
      | none =>
        cases (readBody_of_unread read clock).symm.trans h
        exact Or.inr (Or.inl rfl)
  | none =>
    rw [parseTime_of_none split] at h
    cases read : readWithOffset? (written text) with
    | some found => cases (readBody_of_instant read).symm.trans h
    | none =>
      cases clock : Time.local? (written text) with
      | some w => cases (readBody_of_clock read clock).symm.trans h
      | none =>
        cases (readBody_of_unread read clock).symm.trans h
        exact Or.inr (Or.inl rfl)

/-- Reading breaks off for the times that lead out of the calendar. -/
theorem parseTime_eq_brokenOff : parseTime text = .error .brokenOff ↔ LeadsOut text := by
  constructor
  · intro h
    rcases cause_of_parseTime h with ⟨-, leads⟩ | refused | ⟨name, refused⟩
    · exact leads
    · cases refused
    · cases refused
  · rintro ⟨split, known, bare, read, meansNone⟩
    rw [parseTime_of_some split, Zone.parse_eq_ok.2 known]
    refine (readBody_of_clock bare read).trans ?_
    rw [Option.elim_some, meansNone]
    rfl

end Read

/-! ## Zones of written times -/

section Zones

variable {text : String}

/-- A time that says where it belongs names its zone, or it names none and has its offset. -/
theorem zone_of_says {z : ZonedTime} (h : Says text (.zoned z)) :
    (namedZone? text = some z.zone ∧ z.zone.isOffset = false ∧ bareOffset? text = none) ∨
      (namedZone? text = none ∧
        ∃ offset, bareOffset? text = some offset ∧ z.zone = .offset offset) := by
  cases h with
  | instantIn split known | clockIn split known =>
    exact Or.inl ⟨by rw [namedZone?, split]; exact known, isOffset_of_ofName? known,
      by simp [bareOffset?, split]⟩
  | zulu split ends =>
    have noDigit : Time.endsInDigit (written text) = false := by
      cases digit : Time.endsInDigit (written text) with
      | false => rfl
      | true => cases ends.symm.trans (endsInZ_of_endsInDigit digit)
    exact Or.inl ⟨by simp [namedZone?, split, ends], rfl, by simp [bareOffset?, noDigit]⟩
  | atOffset split ends read =>
    exact Or.inr ⟨by simp [namedZone?, split, endsInZ_of_endsInDigit ends], _,
      by simp [bareOffset?, split, ends, read], rfl⟩

/-- No offset in numbers is taken for `Z`. -/
example : bareOffset? "2024-06-01T00:00:00+00:00" = some 0 ∧
    bareOffset? "2024-06-01T00:00:00Z" = none := by
  decide +kernel

/-- A time that only says what a clock reads has no offset and no zone in brackets. -/
theorem bareOffset?_of_clock {w : WallTime} (h : Says text (.wall w)) :
    bareOffset? text = none ∧ (namedZone? text).getD .utc = .utc := by
  cases h with
  | clock split bare read =>
    refine ⟨by simp [bareOffset?, bare], ?_⟩
    rw [namedZone?, split]
    dsimp only
    split <;> rfl

/-- A time with nothing but an offset says an instant. -/
theorem says_of_bareOffset {offset : Int} (h : bareOffset? text = some offset) :
    ∃ t, Says text (.zoned ⟨t, .offset offset⟩) := by
  rw [bareOffset?] at h
  split at h
  case isTrue form =>
    obtain ⟨⟨t, _⟩, read, rfl⟩ := Option.map_eq_some_iff.1 h
    exact ⟨t, .atOffset form.1 form.2 read⟩
  case isFalse => cases h

end Zones

end HydroArchive
