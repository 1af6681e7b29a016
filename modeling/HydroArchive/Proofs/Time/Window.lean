import HydroArchive.Proofs.Text.Blank
import HydroArchive.Proofs.Time.Localize
import HydroArchive.Proofs.Time.Written
import HydroArchive.Store.Timeline

/-!
# The window that a request asks for

Begin, end and zone of a window are three texts, each of which may be blank.  A window is shown in
the zone that is given, else in the zone that its begin names, else in UTC.  A begin that names no
place is read in the zone that is given, and an end in the zone of the begin, which may be a bare
offset where a zone is given besides.

A window can be refused for five faults.  Of those that are there the first one should be reported.
But where a begin or an end leads out of the calendar, the computation breaks off at that place, and
the faults behind it are not seen.

## Main definitions

* `StandsFor`, `Outside` — the time that one of the texts stands for, and that there is none.
* `TimeWindow.Answers` — what is true of the window that three texts ask for.
* `refusals`, `windowFaults`, `FirstFault` — the faults in order, without and with those that make
  the computation break off, and the first of them.

## Main statements

* `resolve_eq_ok_iff` — which window is answered.
* `resolve_eq_error_iff` — which windows are not, for which fault, and whether it is the one that
  should be reported.
-/

namespace HydroArchive

@[simp] theorem Instant.not_lt {a b : Instant} : ¬ b < a ↔ a ≤ b := by
  rw [Instant.lt_iff, Instant.le_iff]
  omega

/-! ## The first fault -/

/-- An error belongs to the first of the faults that is there. -/
def FirstFault {ε : Type} : List (ε → Prop) → ε → Prop
  | [], _ => False
  | fault :: faults, e => fault e ∨ (∀ e', ¬ fault e') ∧ FirstFault faults e

section FirstFault

variable {ε α β : Type} {fault : ε → Prop} {faults : List (ε → Prop)}

/-- A check comes before the checks behind it, which see what it lets pass. -/
theorem bind_eq_error_iff_firstFault {x : Except ε α} {f : α → Except ε β}
    (here : ∀ e, x = .error e ↔ fault e)
    (behind : ∀ a, x = .ok a → ∀ e, f a = .error e ↔ FirstFault faults e) (e : ε) :
    (x >>= f) = .error e ↔ FirstFault (fault :: faults) e := by
  rw [bind_eq_error, FirstFault, here]
  refine or_congr_right ⟨?_, ?_⟩
  · rintro ⟨a, passed, h⟩
    refine ⟨fun e' faulty => ?_, (behind a passed e).1 h⟩
    cases passed.symm.trans ((here e').2 faulty)
  · rintro ⟨sound, later⟩
    cases passed : x with
    | error e' => exact absurd ((here e').1 passed) (sound e')
    | ok a => exact ⟨a, rfl, (behind a passed e).2 later⟩

/-- A check that finds two faults, never both, stands for two checks. -/
theorem firstFault_or {fault' : ε → Prop} (apart : ∀ e e', fault e → ¬ fault' e') {e : ε} :
    FirstFault ((fun e => fault e ∨ fault' e) :: faults) e
      ↔ FirstFault (fault :: fault' :: faults) e := by
  constructor
  · rintro ((first | second) | ⟨sound, later⟩)
    · exact Or.inl first
    · exact Or.inr ⟨fun e' first => apart e' e first second, Or.inl second⟩
    · exact Or.inr ⟨fun e' first => sound e' (Or.inl first),
        Or.inr ⟨fun e' second => sound e' (Or.inr second), later⟩⟩
  · rintro (first | ⟨none, second | ⟨none', later⟩⟩)
    · exact Or.inl (Or.inl first)
    · exact Or.inl (Or.inr second)
    · exact Or.inr ⟨fun e' => not_or.2 ⟨none e', none' e'⟩, later⟩

/-- A fault that is never the first one can be left out. -/
theorem firstFault_drop (front behind : List (ε → Prop))
    (hidden : ∀ e, fault e → ¬ FirstFault (front ++ fault :: behind) e) {e : ε} :
    FirstFault (front ++ fault :: behind) e ↔ FirstFault (front ++ behind) e := by
  induction front with
  | nil =>
    have absent : ∀ e, ¬ fault e := fun e faulty => hidden e faulty (Or.inl faulty)
    exact ⟨fun h => (h.resolve_left (absent e)).2, fun h => Or.inr ⟨absent, h⟩⟩
  | cons head front ih =>
    refine or_congr_right (and_congr_right fun sound => ih fun e' faulty first => ?_)
    exact hidden e' faulty (Or.inr ⟨sound, first⟩)

theorem mem_of_firstFault {e : ε} (h : FirstFault faults e) : ∃ fault ∈ faults, fault e := by
  induction faults with
  | nil => exact h.elim
  | cons fault faults ih =>
    rcases h with first | ⟨-, later⟩
    · exact ⟨fault, List.mem_cons_self, first⟩
    · obtain ⟨fault', mem, faulty⟩ := ih later
      exact ⟨fault', List.mem_cons_of_mem _ mem, faulty⟩

/-- Where there are faults, one of them is the first. -/
theorem exists_firstFault {e : ε} (mem : fault ∈ faults) (faulty : fault e) :
    ∃ e', FirstFault faults e' := by
  induction faults with
  | nil => cases mem
  | cons head faults ih =>
    by_cases earlier : ∃ e', head e'
    · exact earlier.imp fun _ => Or.inl
    · rcases List.mem_cons.1 mem with rfl | mem
      · exact absurd ⟨e, faulty⟩ earlier
      · exact (ih mem).imp fun _ later => Or.inr ⟨not_exists.1 earlier, later⟩

end FirstFault

/-! ## The zone that is given -/

section Given

variable {zoneName : Option String}

def givenZone? (zoneName : Option String) : Option Zone :=
  (Text.nonBlank? zoneName).bind Zone.ofName?

/-- The zone in which a begin is read that names no place. -/
def readingZone (zoneName : Option String) : Zone := (givenZone? zoneName).getD .utc

/-- A name is given, and no zone has it. -/
def UnknownZone (zoneName : Option String) (e : TimeFailure) : Prop :=
  ∃ name, Text.nonBlank? zoneName = some name ∧ Zone.ofName? name = none ∧
    e = .refused (.unknownZone name)

theorem trim_of_nonBlank? {name : String} (h : Text.nonBlank? zoneName = some name) :
    Text.trim name = name := by
  obtain ⟨s, -, rfl, -⟩ := Text.nonBlank?_eq_some_iff.1 h
  exact Text.trim_trim s

theorem isOffset_of_givenZone? {z : Zone} (h : givenZone? zoneName = some z) :
    z.isOffset = false := by
  obtain ⟨name, -, found⟩ := Option.bind_eq_some_iff.1 h
  exact isOffset_of_ofName? found

theorem givenZone?_eq_none (blank : Text.nonBlank? zoneName = none) :
    givenZone? zoneName = none := by
  rw [givenZone?, blank]
  rfl

theorem exists_givenZone? (known : ∀ e, ¬ UnknownZone zoneName e) {name : String}
    (present : Text.nonBlank? zoneName = some name) :
    ∃ z, Zone.ofName? name = some z ∧ givenZone? zoneName = some z := by
  cases found : Zone.ofName? name with
  | none => exact absurd ⟨name, present, found, rfl⟩ (known (.refused (.unknownZone name)))
  | some z => exact ⟨z, rfl, by rw [givenZone?, present]; exact found⟩

/-- The zone that is given, or another one where none is. -/
theorem eq_getD_givenZone?_iff {zone z : Zone} (known : ∀ e, ¬ UnknownZone zoneName e) :
    zone = (givenZone? zoneName).getD z ↔
      (∀ name, Text.nonBlank? zoneName = some name → Zone.ofName? name = some zone) ∧
        (Text.nonBlank? zoneName = none → zone = z) := by
  cases present : Text.nonBlank? zoneName with
  | none => simp [givenZone?_eq_none present]
  | some name =>
    obtain ⟨given, found, isGiven⟩ := exists_givenZone? known present
    simp [isGiven, found, eq_comm]

theorem mapM_parse_eq_ok {given : Option Zone} :
    ((Text.nonBlank? zoneName).mapM Zone.parse).mapError TimeFailure.refused = .ok given ↔
      given = givenZone? zoneName ∧ ∀ e, ¬ UnknownZone zoneName e := by
  rw [mapError_eq_ok]
  simp only [givenZone?, UnknownZone]
  cases Text.nonBlank? zoneName with
  | none => simp [pure, Except.pure, eq_comm]
  | some name =>
    change (Zone.parse name).map some = _ ↔ _
    cases known : Zone.ofName? name <;> simp [Zone.parse, Except.map, known, eq_comm]

theorem mapM_parse_eq_error {e : TimeFailure} :
    ((Text.nonBlank? zoneName).mapM Zone.parse).mapError .refused = .error e
      ↔ UnknownZone zoneName e := by
  rw [mapError_eq_error]
  cases found : Text.nonBlank? zoneName with
  | none => simp [UnknownZone, found, pure, Except.pure]
  | some name =>
    change (∃ cause, (Zone.parse name).map some = _ ∧ _) ↔ _
    simp only [map_eq_error, Zone.parse_eq_error, trim_of_nonBlank? found]
    simp [UnknownZone, found, eq_comm]

end Given

/-! ## Texts of begin and end -/

/-- The time that a text stands for: what it says, read in `zone` where it says no more than what a
clock reads, or `default` where it is blank. -/
inductive StandsFor (zone : Zone) (default : Option Instant) (text : Option String) :
    ZonedTime → Prop where
  | absent {t : Instant} (blank : Text.nonBlank? text = none) (covered : default = some t) :
      StandsFor zone default text ⟨t, zone⟩
  | zoned {s : String} {z : ZonedTime} (given : Text.nonBlank? text = some s)
      (said : Says s (.zoned z)) : StandsFor zone default text z
  | clock {s : String} {w : WallTime} {t : Instant} (given : Text.nonBlank? text = some s)
      (said : Says s (.wall w)) (means : zone.localize w = some t) :
      StandsFor zone default text ⟨t, zone⟩

/-- A text is not blank, and it is refused as a time. -/
def Unreadable (text : Option String) (e : TimeFailure) : Prop :=
  ∃ s cause, Text.nonBlank? text = some s ∧ parseTime s = .error (.refused cause) ∧
    e = .refused cause

/-- A text stands for no time of the calendar: it leads out of it, or `default` does where it is
blank. -/
inductive Outside (zone : Zone) (default : Option Instant) (text : Option String) :
    TimeFailure → Prop where
  | absent (blank : Text.nonBlank? text = none) (uncovered : default = none) :
      Outside zone default text .brokenOff
  | zoned {s : String} (given : Text.nonBlank? text = some s) (leads : LeadsOut s) :
      Outside zone default text .brokenOff
  | clock {s : String} {w : WallTime} (given : Text.nonBlank? text = some s)
      (said : Says s (.wall w)) (meansNone : zone.localize w = none) :
      Outside zone default text .brokenOff

section Texts

variable {text : Option String} {zone : Zone} {default : Option Instant} {z : ZonedTime}
  {e : TimeFailure}

theorem timeOf_eq_ok : TimeWindow.timeOf (Text.nonBlank? text) zone default = .ok z
    ↔ StandsFor zone default text z := by
  constructor
  · intro h
    cases given : Text.nonBlank? text with
    | none =>
      rw [given] at h
      obtain ⟨t, covered, rfl⟩ := coveredIn_eq_ok.1 h
      exact .absent given covered
    | some s =>
      rw [given] at h
      obtain ⟨p, read, h⟩ := bind_eq_ok.1 h
      have said := parseTime_eq_ok.1 read
      cases p with
      | zoned =>
        cases h
        exact .zoned given said
      | wall w =>
        obtain ⟨t, means, rfl⟩ := coveredIn_eq_ok.1 h
        exact .clock given said means
  · intro h
    cases h with
    | absent blank covered =>
      rw [blank]
      exact coveredIn_eq_ok.2 ⟨_, covered, rfl⟩
    | zoned given said =>
      rw [given]
      exact bind_eq_ok.2 ⟨_, parseTime_eq_ok.2 said, rfl⟩
    | clock given said means =>
      rw [given]
      exact bind_eq_ok.2 ⟨_, parseTime_eq_ok.2 said, coveredIn_eq_ok.2 ⟨_, means, rfl⟩⟩

theorem timeOf_eq_error : TimeWindow.timeOf (Text.nonBlank? text) zone default = .error e
    ↔ Unreadable text e ∨ Outside zone default text e := by
  constructor
  · intro h
    cases given : Text.nonBlank? text with
    | none =>
      rw [given] at h
      obtain ⟨uncovered, rfl⟩ := coveredIn_eq_error.1 h
      exact Or.inr (.absent given uncovered)
    | some s =>
      rw [given] at h
      rcases bind_eq_error.1 h with unread | ⟨p, read, h⟩
      · cases e with
        | refused cause => exact Or.inl ⟨s, cause, given, unread, rfl⟩
        | brokenOff => exact Or.inr (.zoned given (parseTime_eq_brokenOff.1 unread))
      · cases p with
        | zoned => cases h
        | wall w =>
          obtain ⟨meansNone, rfl⟩ := coveredIn_eq_error.1 h
          exact Or.inr (.clock given (parseTime_eq_ok.1 read) meansNone)
  · rintro (⟨s, cause, given, unread, rfl⟩ | outside)
    · rw [given]
      exact bind_eq_error.2 (Or.inl unread)
    · cases outside with
      | absent blank uncovered =>
        rw [blank]
        exact coveredIn_eq_error.2 ⟨uncovered, rfl⟩
      | zoned given leads =>
        rw [given]
        exact bind_eq_error.2 (Or.inl (parseTime_eq_brokenOff.2 leads))
      | clock given said meansNone =>
        rw [given]
        exact bind_eq_error.2
          (Or.inr ⟨_, parseTime_eq_ok.2 said, coveredIn_eq_error.2 ⟨meansNone, rfl⟩⟩)

theorem StandsFor.unique {z' : ZonedTime} (h : StandsFor zone default text z)
    (h' : StandsFor zone default text z') : z = z' :=
  Except.ok.inj ((timeOf_eq_ok.2 h).symm.trans (timeOf_eq_ok.2 h'))

/-- A text that stands for a time has neither fault. -/
theorem StandsFor.sound (h : StandsFor zone default text z) :
    ¬ (Unreadable text e ∨ Outside zone default text e) := fun faulty =>
  nomatch (timeOf_eq_ok.2 h).symm.trans (timeOf_eq_error.2 faulty)

theorem Outside.eq_brokenOff (h : Outside zone default text e) : e = .brokenOff := by
  cases h <;> rfl

theorem Unreadable.ne_brokenOff (h : Unreadable text e) : e ≠ .brokenOff := by
  obtain ⟨-, -, -, -, rfl⟩ := h
  nofun

/-- A text that is refused does not make the computation break off. -/
theorem Unreadable.not_outside {e' : TimeFailure} (h : Unreadable text e) :
    ¬ Outside zone default text e' := by
  intro outside
  have refused : TimeWindow.timeOf (Text.nonBlank? text) zone default = .error e :=
    timeOf_eq_error.2 (Or.inl h)
  have broken := timeOf_eq_error.2 (Or.inr outside)
  cases outside.eq_brokenOff
  exact h.ne_brokenOff (Except.error.inj (refused.symm.trans broken))

end Texts

/-! ## The zone of a window -/

/-- No zone is given, and the begin has nothing but an offset. -/
def OnlyOffset (zoneName beginText : Option String) (e : TimeFailure) : Prop :=
  Text.nonBlank? zoneName = none ∧ ∃ s, Text.nonBlank? beginText = some s ∧
    (bareOffset? s).isSome ∧ e = .refused (.ambiguousOffset s)

section Zones

variable {text : Option String} {default : Option Instant} {z : ZonedTime} {zone : Zone}
  {s : String}

@[simp] theorem isOffset_readingZone (zoneName : Option String) :
    (readingZone zoneName).isOffset = false := by
  rw [readingZone]
  cases known : givenZone? zoneName with
  | none => rfl
  | some z => exact isOffset_of_givenZone? known

theorem StandsFor.zone_of_bareOffset (h : StandsFor zone default text z)
    (given : Text.nonBlank? text = some s) {offset : Int} (bare : bareOffset? s = some offset) :
    z.zone = .offset offset := by
  obtain ⟨t, said⟩ := says_of_bareOffset bare
  exact congrArg ZonedTime.zone (h.unique (.zoned given said))

/-- A time is shown at a bare offset where its text has nothing but an offset. -/
theorem StandsFor.isOffset_iff (h : StandsFor zone default text z) (named : zone.isOffset = false) :
    z.zone.isOffset = true ↔ ∃ s, Text.nonBlank? text = some s ∧ (bareOffset? s).isSome := by
  constructor
  · intro offset
    cases h with
    | absent | clock => cases named.symm.trans offset
    | zoned given said =>
      rcases zone_of_says said with ⟨-, isNamed, -⟩ | ⟨-, seconds, bare, -⟩
      · cases isNamed.symm.trans offset
      · exact ⟨_, given, Option.isSome_of_eq_some bare⟩
  · rintro ⟨s, given, bare⟩
    obtain ⟨offset, bare⟩ := Option.isSome_iff_exists.1 bare
    rw [h.zone_of_bareOffset given bare]
    rfl

/-- Where no zone is given, a begin has the zone that it names, else UTC. -/
theorem StandsFor.zone_eq_named (h : StandsFor .utc default text z)
    (named : z.zone.isOffset = false) : z.zone = ((Text.nonBlank? text).bind namedZone?).getD .utc := by
  cases h with
  | absent blank => rw [blank]; rfl
  | zoned given said =>
    rcases zone_of_says said with ⟨isNamed, -, -⟩ | ⟨-, offset, -, zone⟩
    · rw [given, Option.bind_some, isNamed]
      rfl
    · rw [zone] at named
      cases named
  | clock given said => rw [given, Option.bind_some, (bareOffset?_of_clock said).2]

end Zones

namespace TimeWindow

/-- What is true of the window that begin, end and zone ask for at the time `now`. -/
structure Answers (w : TimeWindow) (beginText endText zoneName : Option String) (now : Instant) :
    Prop where
  /-- The begin is not after the end. -/
  ordered : w.beginTime.instant ≤ w.endTime.instant
  /-- The window is shown in a named zone. -/
  named : w.zone.isOffset = false
  /-- It is the zone that is given. -/
  given {name : String} (present : Text.nonBlank? zoneName = some name) :
    Zone.ofName? name = some w.zone
  /-- Where none is given, it is the zone of the begin: the one that the begin names, else UTC. -/
  own (blank : Text.nonBlank? zoneName = none) :
    w.zone = w.beginTime.zone ∧ w.zone = ((Text.nonBlank? beginText).bind namedZone?).getD .utc
  /-- The begin is read in the zone that is given; without a begin, the window begins 24 hours
  before `now`. -/
  begins : StandsFor (readingZone zoneName) (now.plus? (-(24 * 3600))) beginText w.beginTime
  /-- A begin with nothing but an offset has that for its zone. -/
  beginsAtOffset {s : String} {offset : Int} (present : Text.nonBlank? beginText = some s)
    (bare : bareOffset? s = some offset) : w.beginTime.zone = .offset offset
  /-- The end is read in the zone of the begin; without an end, the window ends `now`. -/
  ends : StandsFor w.beginTime.zone (some now) endText w.endTime

/-- The begin is after the end. -/
def Inverted (beginText endText zoneName : Option String) (now : Instant) (e : TimeFailure) : Prop :=
  ∃ b z, StandsFor (readingZone zoneName) (now.plus? (-(24 * 3600))) beginText b ∧
    StandsFor b.zone (some now) endText z ∧ z.instant < b.instant ∧
    e = .refused (.invertedWindow b.text z.text)

/-- The end leads out of the calendar, where it is read in the zone of the begin. -/
def EndsOutside (beginText endText zoneName : Option String) (now : Instant) (e : TimeFailure) :
    Prop :=
  ∃ b, StandsFor (readingZone zoneName) (now.plus? (-(24 * 3600))) beginText b ∧
    Outside b.zone (some now) endText e

/-- The faults for which a window should be refused, in the order in which they are looked for. -/
def refusals (beginText endText zoneName : Option String) (now : Instant) :
    List (TimeFailure → Prop) :=
  [UnknownZone zoneName, Unreadable beginText, OnlyOffset zoneName beginText, Unreadable endText,
    Inverted beginText endText zoneName now]

/-- The faults for which there is no window, with those for which the computation breaks off. -/
def windowFaults (beginText endText zoneName : Option String) (now : Instant) :
    List (TimeFailure → Prop) :=
  [UnknownZone zoneName, Unreadable beginText,
    Outside (readingZone zoneName) (now.plus? (-(24 * 3600))) beginText,
    OnlyOffset zoneName beginText, Unreadable endText,
    EndsOutside beginText endText zoneName now, Inverted beginText endText zoneName now]

section Resolve

variable {beginText endText zoneName : Option String} {now : Instant} {w : TimeWindow}
  {b z : ZonedTime} {given : Option Zone} {zone : Zone} {e : TimeFailure}

/-- The checks of a window, one behind the other. -/
theorem resolve_eq (beginText endText zoneName : Option String) (now : Instant) :
    resolve beginText endText zoneName now =
      ((Text.nonBlank? zoneName).mapM Zone.parse).mapError .refused >>= fun given =>
      timeOf (Text.nonBlank? beginText) (given.getD .utc) (now.plus? (-(24 * 3600))) >>= fun b =>
      resolveZone given (Text.nonBlank? beginText) b >>= fun zone =>
      timeOf (Text.nonBlank? endText) b.zone (some now) >>= fun z =>
      if z.instant < b.instant then .error (.refused (.invertedWindow b.text z.text))
      else .ok ⟨b, z, zone⟩ :=
  rfl

theorem resolveZone_eq_ok {text : Option String} :
    resolveZone (givenZone? zoneName) text b = .ok zone ↔
      zone.isOffset = false ∧ zone = (givenZone? zoneName).getD b.zone := by
  cases known : givenZone? zoneName with
  | some z =>
    constructor
    · rintro ⟨⟩
      exact ⟨isOffset_of_givenZone? known, rfl⟩
    · rintro ⟨-, rfl⟩
      rfl
  | none =>
    rw [resolveZone, Option.getD_none]
    split
    case isTrue offset =>
      refine ⟨nofun, ?_⟩
      rintro ⟨named, rfl⟩
      cases named.symm.trans offset
    case isFalse named =>
      constructor
      · rintro ⟨⟩
        exact ⟨eq_false_of_ne_true named, rfl⟩
      · rintro ⟨-, rfl⟩
        rfl

/-- A begin has no zone for the window where none is given and it has nothing but an offset. -/
theorem resolveZone_eq_error (known : ∀ e, ¬ UnknownZone zoneName e)
    {default : Option Instant} (begins : StandsFor (readingZone zoneName) default beginText b) :
    resolveZone (givenZone? zoneName) (Text.nonBlank? beginText) b = .error e ↔
      OnlyOffset zoneName beginText e := by
  rw [OnlyOffset]
  cases given : Text.nonBlank? zoneName with
  | some name =>
    obtain ⟨z, -, isGiven⟩ := exists_givenZone? known given
    rw [isGiven]
    exact ⟨nofun, nofun⟩
  | none =>
    have atOffset := begins.isOffset_iff (isOffset_readingZone zoneName)
    rw [givenZone?_eq_none given, resolveZone]
    split
    case isTrue offset =>
      obtain ⟨s, present, bare⟩ := atOffset.1 offset
      rw [present]
      constructor
      · rintro ⟨⟩
        exact ⟨rfl, s, rfl, bare, rfl⟩
      · rintro ⟨-, _, ⟨⟩, -, rfl⟩
        rfl
    case isFalse named =>
      refine ⟨nofun, ?_⟩
      rintro ⟨-, s, present, bare, -⟩
      exact absurd (atOffset.2 ⟨s, present, bare⟩) named

/-- The last of the checks. -/
theorem inverted_iff
    (begins : StandsFor (readingZone zoneName) (now.plus? (-(24 * 3600))) beginText b)
    (ends : StandsFor b.zone (some now) endText z) :
    (if z.instant < b.instant then .error (.refused (.invertedWindow b.text z.text)) else .ok w) =
      (.error e : Except TimeFailure TimeWindow) ↔
    FirstFault [Inverted beginText endText zoneName now] e := by
  constructor
  · intro h
    split at h
    case isTrue inverted =>
      cases h
      exact Or.inl ⟨b, z, begins, ends, inverted, rfl⟩
    case isFalse => cases h
  · rintro (⟨b', z', begins', ends', inverted, rfl⟩ | ⟨-, ⟨⟩⟩)
    cases begins.unique begins'
    cases ends.unique ends'
    rw [if_pos inverted]

/-- Exactly the window that begin, end and zone ask for is answered. -/
theorem resolve_eq_ok_iff : resolve beginText endText zoneName now = .ok w ↔
    w.Answers beginText endText zoneName now := by
  rw [resolve_eq]
  constructor
  · intro h
    obtain ⟨given, parsed, h⟩ := bind_eq_ok.1 h
    obtain ⟨rfl, known⟩ := mapM_parse_eq_ok.1 parsed
    obtain ⟨b, begins, h⟩ := bind_eq_ok.1 h
    have begins : StandsFor (readingZone zoneName) _ beginText b := timeOf_eq_ok.1 begins
    obtain ⟨zone, shown, h⟩ := bind_eq_ok.1 h
    obtain ⟨named, zone_eq⟩ := resolveZone_eq_ok.1 shown
    obtain ⟨given, own⟩ := (eq_getD_givenZone?_iff known).1 zone_eq
    obtain ⟨z, ends, h⟩ := bind_eq_ok.1 h
    split at h
    case isTrue => cases h
    case isFalse ordered =>
      cases h
      refine ⟨Instant.not_lt.1 ordered, named, given _, fun blank => ⟨own blank, ?_⟩, begins,
        fun present bare => begins.zone_of_bareOffset present bare, timeOf_eq_ok.1 ends⟩
      rw [readingZone, givenZone?_eq_none blank] at begins
      cases own blank
      exact begins.zone_eq_named named
  · intro h
    have known : ∀ e, ¬ UnknownZone zoneName e := by
      rintro e ⟨name, present, unknown, -⟩
      cases unknown.symm.trans (h.given present)
    have zone_eq := (eq_getD_givenZone?_iff known).2
      ⟨fun name present => h.given present, fun blank => (h.own blank).1⟩
    refine bind_eq_ok.2 ⟨_, mapM_parse_eq_ok.2 ⟨rfl, known⟩, ?_⟩
    refine bind_eq_ok.2 ⟨_, timeOf_eq_ok.2 h.begins, ?_⟩
    refine bind_eq_ok.2 ⟨_, resolveZone_eq_ok.2 ⟨h.named, zone_eq⟩, ?_⟩
    refine bind_eq_ok.2 ⟨_, timeOf_eq_ok.2 h.ends, ?_⟩
    rw [if_neg (Instant.not_lt.2 h.ordered)]

/-- Of the faults, the first one is there. -/
theorem resolve_eq_error_iff_firstFault (e : TimeFailure) :
    resolve beginText endText zoneName now = .error e ↔
      FirstFault (windowFaults beginText endText zoneName now) e := by
  -- One step for each check; what a check lets pass is known to those behind it.
  rw [resolve_eq, windowFaults]
  refine bind_eq_error_iff_firstFault (fun e => mapM_parse_eq_error) (fun given parsed e => ?_) e
  obtain ⟨rfl, known⟩ := mapM_parse_eq_ok.1 parsed
  rw [← firstFault_or fun e e' => Unreadable.not_outside]
  refine bind_eq_error_iff_firstFault (fun e => timeOf_eq_error) (fun b begun e => ?_) e
  have begins := timeOf_eq_ok.1 begun
  refine bind_eq_error_iff_firstFault (fun e => resolveZone_eq_error known begins)
    (fun zone _ e => ?_) e
  have endsOutside (e : TimeFailure) :
      Outside b.zone (some now) endText e ↔ EndsOutside beginText endText zoneName now e := by
    refine ⟨fun outside => ⟨b, begins, outside⟩, ?_⟩
    rintro ⟨b', begins', outside⟩
    exact begins.unique begins' ▸ outside
  rw [← firstFault_or fun e e' unread outside => unread.not_outside ((endsOutside e').2 outside)]
  refine bind_eq_error_iff_firstFault (fun e => ?_) (fun z ended e => ?_) e
  · rw [timeOf_eq_error, endsOutside]
  · exact inverted_iff begins (timeOf_eq_ok.1 ended)

/-- Of the faults, only a begin with nothing but an offset is called ambiguous. -/
theorem onlyOffset_of_firstFault {s : String} (h : FirstFault
    (windowFaults beginText endText zoneName now) (.refused (.ambiguousOffset s))) :
    OnlyOffset zoneName beginText (.refused (.ambiguousOffset s)) := by
  have readable {text : Option String} : ¬ Unreadable text (.refused (.ambiguousOffset s)) := by
    rintro ⟨_, _, -, unread, ⟨⟩⟩
    rcases cause_of_parseTime unread with ⟨cause, -⟩ | cause | ⟨name, cause⟩ <;> cases cause
  obtain ⟨fault, mem, faulty⟩ := mem_of_firstFault h
  simp only [windowFaults, List.mem_cons, List.not_mem_nil, or_false] at mem
  rcases mem with rfl | rfl | rfl | rfl | rfl | rfl | rfl
  · obtain ⟨name, -, -, cause⟩ := faulty
    cases cause
  · exact absurd faulty readable
  · cases faulty.eq_brokenOff
  · exact faulty
  · exact absurd faulty readable
  · obtain ⟨b, -, outside⟩ := faulty
    cases outside.eq_brokenOff
  · obtain ⟨b, z, -, -, -, cause⟩ := faulty
    cases cause

/-- Nothing is wrong before a begin that is ambiguous. -/
theorem firstFault_of_onlyOffset (h : OnlyOffset zoneName beginText e) :
    FirstFault (windowFaults beginText endText zoneName now) e := by
  have ⟨blank, s, present, bare, _⟩ := h
  obtain ⟨offset, bare⟩ := Option.isSome_iff_exists.1 bare
  obtain ⟨t, said⟩ := says_of_bareOffset bare
  have begins : StandsFor (readingZone zoneName) (now.plus? (-(24 * 3600))) beginText
      ⟨t, .offset offset⟩ := .zoned present said
  refine Or.inr ⟨?_, Or.inr ⟨?_, Or.inr ⟨?_, Or.inl h⟩⟩⟩
  · rintro e' ⟨name, given, -⟩
    cases blank.symm.trans given
  · exact fun e' unread => begins.sound (Or.inl unread)
  · exact fun e' outside => begins.sound (Or.inr outside)

/-- The computation breaks off at the begin, or, where the begin has a zone, at the end. -/
theorem resolve_eq_brokenOff_iff : resolve beginText endText zoneName now = .error .brokenOff ↔
    (∀ e, ¬ UnknownZone zoneName e) ∧
      (Outside (readingZone zoneName) (now.plus? (-(24 * 3600))) beginText .brokenOff ∨
        (∀ e, ¬ OnlyOffset zoneName beginText e) ∧
          EndsOutside beginText endText zoneName now .brokenOff) := by
  rw [resolve_eq_error_iff_firstFault]
  constructor
  · rintro (unknown | ⟨known, unread | ⟨-, outside | ⟨-, only | ⟨zoned, later⟩⟩⟩⟩)
    · obtain ⟨name, -, -, cause⟩ := unknown
      cases cause
    · exact absurd rfl unread.ne_brokenOff
    · exact ⟨known, Or.inl outside⟩
    · obtain ⟨-, s, -, -, cause⟩ := only
      cases cause
    · rcases later with unread | ⟨-, outside | ⟨-, inverted | ⟨-, ⟨⟩⟩⟩⟩
      · exact absurd rfl unread.ne_brokenOff
      · exact ⟨known, Or.inr ⟨zoned, outside⟩⟩
      · obtain ⟨b, z, -, -, -, cause⟩ := inverted
        cases cause
  · rintro ⟨known, outside | ⟨zoned, b, begins, outside⟩⟩
    · exact Or.inr ⟨known, Or.inr ⟨fun e unread => unread.not_outside outside, Or.inl outside⟩⟩
    · refine Or.inr ⟨known, Or.inr ⟨fun e unread => begins.sound (Or.inl unread),
        Or.inr ⟨fun e faulty => begins.sound (Or.inr faulty), Or.inr ⟨zoned, Or.inr ⟨?_, ?_⟩⟩⟩⟩⟩
      · exact fun e unread => unread.not_outside outside
      · exact Or.inl ⟨b, begins, outside⟩

/-- What should be reported is a refusal. -/
theorem ne_brokenOff_of_refusals (h : FirstFault (refusals beginText endText zoneName now) e) :
    e ≠ .brokenOff := by
  obtain ⟨fault, mem, faulty⟩ := mem_of_firstFault h
  simp only [refusals, List.mem_cons, List.not_mem_nil, or_false] at mem
  rcases mem with rfl | rfl | rfl | rfl | rfl
  · obtain ⟨name, -, -, rfl⟩ := faulty
    nofun
  · exact faulty.ne_brokenOff
  · obtain ⟨-, s, -, -, rfl⟩ := faulty
    nofun
  · exact faulty.ne_brokenOff
  · obtain ⟨b, z, -, -, -, rfl⟩ := faulty
    nofun

/-- Where the computation does not break off, the faults for which it would make no difference. -/
theorem firstFault_refusals
    (ended : resolve beginText endText zoneName now ≠ .error .brokenOff) :
    FirstFault (windowFaults beginText endText zoneName now) e ↔
      FirstFault (refusals beginText endText zoneName now) e := by
  have notFirst : ¬ FirstFault (windowFaults beginText endText zoneName now) .brokenOff :=
    mt (resolve_eq_error_iff_firstFault _).2 ended
  -- the end is left out first, so that what is left stays a list of faults in their order
  have endLeftOut : ∀ e, FirstFault (windowFaults beginText endText zoneName now) e ↔
      FirstFault [UnknownZone zoneName, Unreadable beginText,
        Outside (readingZone zoneName) (now.plus? (-(24 * 3600))) beginText,
        OnlyOffset zoneName beginText, Unreadable endText,
        Inverted beginText endText zoneName now] e := by
    refine fun e => firstFault_drop [_, _, _, _, _] [_] fun e' faulty first => ?_
    obtain ⟨b, -, outside⟩ := faulty
    cases outside.eq_brokenOff
    exact notFirst first
  rw [endLeftOut]
  refine firstFault_drop [_, _] [_, _, _] fun e' outside first => ?_
  cases outside.eq_brokenOff
  exact notFirst ((endLeftOut _).2 first)

/-- There is no window where one of the faults is there, and then for the first of them.  This is
the one that should be reported exactly where the computation does not break off.  It does where the
begin leads out of the calendar, or the end does and the begin has a zone.  A begin is called
ambiguous where no zone is given and it has nothing but an offset, and only there. -/
theorem resolve_eq_error_iff :
    (∀ e, resolve beginText endText zoneName now = .error e ↔
      FirstFault (windowFaults beginText endText zoneName now) e) ∧
    ((∀ e, resolve beginText endText zoneName now = .error e ↔
        FirstFault (refusals beginText endText zoneName now) e) ↔
      resolve beginText endText zoneName now ≠ .error .brokenOff) ∧
    (resolve beginText endText zoneName now = .error .brokenOff ↔
      (∀ e, ¬ UnknownZone zoneName e) ∧
        (Outside (readingZone zoneName) (now.plus? (-(24 * 3600))) beginText .brokenOff ∨
          (∀ e, ¬ OnlyOffset zoneName beginText e) ∧
            EndsOutside beginText endText zoneName now .brokenOff)) ∧
    ((∃ e, resolve beginText endText zoneName now = .error e) ↔
      ∃ fault ∈ windowFaults beginText endText zoneName now, ∃ e, fault e) ∧
    ∀ s, resolve beginText endText zoneName now = .error (.refused (.ambiguousOffset s)) ↔
      Text.nonBlank? zoneName = none ∧ Text.nonBlank? beginText = some s ∧
        (bareOffset? s).isSome := by
  refine ⟨resolve_eq_error_iff_firstFault, ⟨fun reported broken => ?_, fun ended e => ?_⟩,
    resolve_eq_brokenOff_iff, ?_, fun s => ?_⟩
  · exact ne_brokenOff_of_refusals ((reported _).1 broken) rfl
  · rw [resolve_eq_error_iff_firstFault, firstFault_refusals ended]
  · simp only [resolve_eq_error_iff_firstFault]
    constructor
    · rintro ⟨e, first⟩
      obtain ⟨fault, mem, faulty⟩ := mem_of_firstFault first
      exact ⟨fault, mem, e, faulty⟩
    · rintro ⟨fault, mem, e, faulty⟩
      exact exists_firstFault mem faulty
  · rw [resolve_eq_error_iff_firstFault]
    constructor
    · intro first
      obtain ⟨blank, s', present, bare, cause⟩ := onlyOffset_of_firstFault first
      cases cause
      exact ⟨blank, present, bare⟩
    · rintro ⟨blank, present, bare⟩
      exact firstFault_of_onlyOffset ⟨blank, s, present, bare, rfl⟩

end Resolve

/-- Half past eleven in the last night of the calendar. -/
def lastNight : String := "+262142-12-31T23:30:00"

theorem says_lastNight : Says lastNight (.wall ⟨.ofSecond (Instant.lastSecond - 1799)⟩) :=
  .clock (by decide +kernel) (by decide +kernel) (by decide +kernel)

/-- In Los Angeles that is an instant of the next year, which the calendar does not have, and an hour
later the year has ended there, too. -/
theorem localize_lastNight : ∃ z, Zone.ofName? "America/Los_Angeles" = some z ∧
    z.localize ⟨.ofSecond (Instant.lastSecond - 1799)⟩ = none := by
  have leads : ((Zone.ofName? "America/Los_Angeles").map fun z =>
      z.localize ⟨.ofSecond (Instant.lastSecond - 1799)⟩) = some none := by decide +kernel
  exact Option.map_eq_some_iff.1 leads

/-- So the computation breaks off, and the end of the window, which is no time, is not looked at. -/
theorem resolve_lastNight :
    resolve (some lastNight) (some "x") (some "America/Los_Angeles") (.ofSecond 0)
        = .error .brokenOff ∧
      FirstFault (refusals (some lastNight) (some "x") (some "America/Los_Angeles") (.ofSecond 0))
        (.refused (.unparseable "x")) ∧
      ¬ ∀ (beginText endText zoneName : Option String) (now : Instant) (e : TimeFailure),
        resolve beginText endText zoneName now = .error e ↔
          FirstFault (refusals beginText endText zoneName now) e := by
  obtain ⟨z, named, meansNone⟩ := localize_lastNight
  have ofZone : Text.nonBlank? (some "America/Los_Angeles") = some "America/Los_Angeles" := by decide
  have ofBegin : Text.nonBlank? (some lastNight) = some lastNight := by decide
  have reading : readingZone (some "America/Los_Angeles") = z := by
    rw [readingZone, givenZone?, ofZone, Option.bind_some, named]
    rfl
  -- none of the checks before the begin is read fails, and neither would those before the end
  have known : ∀ e, ¬ UnknownZone (some "America/Los_Angeles") e := by
    rintro e ⟨name, given, unknown, -⟩
    cases ofZone.symm.trans given
    cases named.symm.trans unknown
  have readable : ∀ e, ¬ Unreadable (some lastNight) e := by
    rintro e ⟨s, cause, given, unread, -⟩
    cases ofBegin.symm.trans given
    cases (parseTime_eq_ok.2 says_lastNight).symm.trans unread
  have zoned : ∀ e, ¬ OnlyOffset (some "America/Los_Angeles") (some lastNight) e := by
    rintro e ⟨blank, -⟩
    cases ofZone.symm.trans blank
  have unread : Unreadable (some "x") (.refused (.unparseable "x")) :=
    ⟨"x", .unparseable "x", by decide, rfl, rfl⟩
  have broken : resolve (some lastNight) (some "x") (some "America/Los_Angeles") (.ofSecond 0)
      = .error .brokenOff :=
    (resolve_eq_error_iff_firstFault _).2 (Or.inr ⟨known, Or.inr ⟨readable,
      Or.inl (.clock ofBegin says_lastNight (reading ▸ meansNone))⟩⟩)
  have first : FirstFault (refusals (some lastNight) (some "x") (some "America/Los_Angeles")
      (.ofSecond 0)) (.refused (.unparseable "x")) :=
    Or.inr ⟨known, Or.inr ⟨readable, Or.inr ⟨zoned, Or.inl unread⟩⟩⟩
  exact ⟨broken, first, fun reported =>
    nomatch broken.symm.trans ((reported _ _ _ _ _).2 first)⟩

end TimeWindow

end HydroArchive
