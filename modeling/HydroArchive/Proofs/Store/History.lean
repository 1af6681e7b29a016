import Mathlib.Data.List.Induction
import HydroArchive.Proofs.Store.Change

/-!
# What a history leaves of a series

A store in memory is what its changes have made of an empty one.  Of a series that is found under a
name, its history says when it was registered and which readings were given for it since.  Of the
readings that were given for one instant the last one stays.

## Main definitions

* `Series.isNamed` — whether a series has a name, up to the case of letters.
* `Change.readingsFor` — the readings that a change gives for a name.
* `lastAt?` — the last reading for an instant.
* `StoredSeries.HoldsLast` — what is stored where readings were given.

## Main statements

* `mem_addReadings` — what is stored at an instant after readings were given.
* `findSeries?_apply` — the series under a name after one change.
* `exists_registration` — the series under a name after any changes of an empty store.
* `holdsLast_of_found` — what it holds.
-/

namespace HydroArchive

theorem Text.sameFold_comm (s t : String) : sameFold s t = sameFold t s := BEq.comm

def Series.isNamed (s : Series) (office id : String) : Bool :=
  Text.sameFold s.office office && Text.sameFold s.id id

theorem StoredSeries.isNamed_eq (s : StoredSeries) (office id : String) :
    s.isNamed office id = s.series.isNamed office id := rfl

theorem StoredSeries.isNamed_iff {s : StoredSeries} {office id : String} :
    s.isNamed office id = true ↔ Text.asciiFold s.series.office = Text.asciiFold office ∧
      Text.asciiFold s.series.id = Text.asciiFold id := by
  rw [isNamed, Bool.and_eq_true, Text.sameFold_iff, Text.sameFold_iff]

/-- The readings that a change gives for a name. -/
def Change.readingsFor (office id : String) : Change → List Reading
  | readings o i rs => if Text.sameFold o office && Text.sameFold i id then rs else []
  | _ => []

/-! ## The last reading for an instant -/

/-- The last of some readings that is for an instant. -/
def lastAt? (t : Instant) (rs : List Reading) : Option Reading := (rs.filter (·.time = t)).getLast?

theorem lastAt?_cons (t : Instant) (r : Reading) (rs : List Reading) :
    lastAt? t (r :: rs) = (lastAt? t rs).or (if r.time = t then some r else none) := by
  rw [lastAt?, lastAt?, List.filter_cons]
  by_cases same : r.time = t
  · rw [if_pos (decide_eq_true same), if_pos same, List.getLast?_cons]
    cases List.getLast? _ <;> rfl
  · rw [if_neg (by simpa using same), if_neg same, Option.or_none]

theorem time_of_lastAt? {t : Instant} {rs : List Reading} {r : Reading}
    (h : lastAt? t rs = some r) : r.time = t := by
  simpa using (List.mem_filter.1 (List.mem_of_getLast? h)).2

/-- There is a last reading for the instants for which there are readings. -/
theorem exists_lastAt? {t : Instant} {rs : List Reading} :
    (∃ r, lastAt? t rs = some r) ↔ t ∈ rs.map Reading.time := by
  rw [← Option.isSome_iff_exists, lastAt?, List.getLast?_isSome, List.mem_map, ne_eq,
    List.filter_eq_nil_iff]
  simp

/-- Leaving out instants does not change what is last at another one. -/
theorem lastAt?_filter (p : Instant → Bool) (t : Instant) (rs : List Reading) :
    lastAt? t (rs.filter fun r => p r.time) = if p t then lastAt? t rs else none := by
  rw [lastAt?, List.filter_filter]
  split
  case isTrue kept =>
    have same : ∀ r ∈ rs, (decide (r.time = t) && p r.time) = decide (r.time = t) := by
      intro r _
      by_cases h : r.time = t <;> simp [h, kept]
    rw [List.filter_congr same, lastAt?]
  case isFalse left =>
    have none : ∀ r ∈ rs, ¬ (decide (r.time = t) && p r.time) = true := by
      intro r _
      by_cases h : r.time = t <;> simp [h, left]
    rw [List.filter_eq_nil_iff.2 none, List.getLast?_nil]

namespace StoredSeries

@[simp] theorem isNamed_addReadings (s : StoredSeries) (rs : List Reading) (office id : String) :
    (s.addReadings rs).isNamed office id = s.isNamed office id := rfl

@[simp] theorem addReadings_addReadings (s : StoredSeries) (rs rs' : List Reading) :
    (s.addReadings rs).addReadings rs' = s.addReadings (rs ++ rs') := by
  rw [addReadings, addReadings, addReadings, List.foldl_append]

/-- After readings were given, the last one for an instant is stored there, and what was there
before is stored where none was given. -/
theorem mem_addReadings {s : StoredSeries} {rs : List Reading} {e : Instant × StoredValue} :
    e ∈ (s.addReadings rs).values.entries ↔
      (∃ r, lastAt? e.1 rs = some r ∧ e.2 = ⟨r.value, r.quality⟩) ∨
        (lastAt? e.1 rs = none ∧ e ∈ s.values.entries) := by
  induction rs generalizing s with
  | nil =>
    change e ∈ s.values.entries ↔ _
    simp [lastAt?]
  | cons r rs ih =>
    have first : s.addReadings (r :: rs) = StoredSeries.addReadings
        { s with values := s.values.insert r.time ⟨r.value, r.quality⟩ } rs := rfl
    rw [first, ih, Timeline.insert, Timeline.mem_insertEntry s.values.ascending, lastAt?_cons]
    obtain ⟨t, v⟩ := e
    cases lastAt? t rs with
    | some last => simp
    | none =>
      by_cases same : r.time = t
      · simp [same, eq_comm]
      · have other : ¬ t = r.time := fun h => same h.symm
        simp [same, other]

/-- The last of some readings for each instant is stored, and nothing else. -/
def HoldsLast (s : StoredSeries) (given : List Reading) : Prop :=
  ∀ e, e ∈ s.values.entries ↔
    ∃ r, lastAt? e.1 given = some r ∧ e.2 = ⟨r.value, r.quality⟩

/-- A series without readings holds those that are given. -/
theorem holdsLast_addReadings (s : Series) (rs : List Reading) :
    HoldsLast (addReadings ⟨s, .empty⟩ rs) rs := by
  intro e
  rw [mem_addReadings]
  simp [Timeline.empty]

end StoredSeries

/-! ## One change -/

section Name

variable {s : StoredSeries} {office id office' id' : String} {rs : List Reading}

/-- Whether two names are the same can be seen at a series that has one of them. -/
theorem StoredSeries.sameFold_of_isNamed (h : s.isNamed office id = true) :
    (Text.sameFold office office' && Text.sameFold id id') = s.isNamed office' id' := by
  obtain ⟨sameOffice, sameId⟩ := isNamed_iff.1 h
  simp only [isNamed, Text.sameFold, sameOffice, sameId]

/-- Readings for a name of a series are for its other names, too. -/
theorem Change.readingsFor_of_isNamed (h : s.isNamed office id = true) :
    (readings office id rs).readingsFor office' id'
      = if s.isNamed office' id' then rs else [] := by
  rw [readingsFor, StoredSeries.sameFold_of_isNamed h]

/-- A series takes the readings for all of its names. -/
theorem Change.readingsFor_of_isNamed' (h : s.isNamed office' id' = true) :
    (readings office id rs).readingsFor office' id'
      = if s.isNamed office id then rs else [] := by
  rw [readingsFor, Text.sameFold_comm office, Text.sameFold_comm id,
    StoredSeries.sameFold_of_isNamed h]

end Name

namespace MemoryStore

/-- Giving readings for a name changes the series under it, and under no other name. -/
theorem find?_updateFirst {office id office' id' : String} {rs : List Reading}
    {ss ss' : List StoredSeries}
    (done : updateFirst (·.isNamed office id) (·.addReadings rs) ss = some ss') :
    ss'.find? (·.isNamed office' id') = (ss.find? (·.isNamed office' id')).map
      (·.addReadings ((Change.readings office id rs).readingsFor office' id')) := by
  induction ss generalizing ss' with
  | nil => cases done
  | cons s ss ih =>
    rw [updateFirst] at done
    split at done
    case isTrue named =>
      cases done
      rw [Change.readingsFor_of_isNamed named, List.find?_cons, List.find?_cons,
        StoredSeries.isNamed_addReadings]
      cases s.isNamed office' id' with
      | true => rfl
      | false => exact (Option.map_id_apply).symm
    case isFalse other =>
      obtain ⟨rest, hrest, rfl⟩ := Option.map_eq_some_iff.1 done
      rw [List.find?_cons, List.find?_cons]
      cases named : s.isNamed office' id' with
      | true =>
        rw [Change.readingsFor_of_isNamed' named, if_neg other]
        rfl
      | false => exact ih hrest

/-- Where no series has a name, none takes readings for it. -/
theorem updateFirst_eq_none {accepts : StoredSeries → Bool}
    {change : StoredSeries → StoredSeries} {ss : List StoredSeries} :
    updateFirst accepts change ss = none ↔ ss.find? accepts = none := by
  induction ss with
  | nil => simp [updateFirst]
  | cons s ss ih =>
    rw [updateFirst, List.find?_cons]
    cases accepts s <;> simp [ih]

theorem updateFirst_append {accepts : StoredSeries → Bool} {change : StoredSeries → StoredSeries}
    {front behind : List StoredSeries} {s : StoredSeries} (others : ∀ x ∈ front, accepts x = false)
    (accepted : accepts s = true) :
    updateFirst accepts change (front ++ s :: behind) = some (front ++ change s :: behind) := by
  induction front with
  | nil => rw [List.nil_append, updateFirst, if_pos accepted, List.nil_append]
  | cons x xs ih =>
    have next : ¬ accepts x = true := by simpa using others x List.mem_cons_self
    rw [List.cons_append, updateFirst, if_neg next,
      ih fun y hy => others y (List.mem_cons_of_mem x hy)]
    rfl

/-- Readings for a name that no series has are refused, and the store stays as it is. -/
theorem addReadings_of_missing {m : MemoryStore} {office id : String}
    (missing : m.findSeries? office id = none) (rs : List Reading) :
    m.addReadings office id rs = .error (missingSeries office id) ∧
      m.apply (.readings office id rs) = m := by
  have refused : m.addReadings office id rs = .error (missingSeries office id) := by
    rw [addReadings, updateFirst_eq_none.2 missing]
  exact ⟨refused, by rw [apply, refused]⟩

/-- Readings for a name are taken by the first series that has it, all of them, and by no other. -/
theorem addReadings_of_found {m : MemoryStore} {office id : String} {stored : StoredSeries}
    (found : m.findSeries? office id = some stored) (rs : List Reading) :
    ∃ front behind, m.series = front ++ stored :: behind ∧
      let changed := { m with series := front ++ stored.addReadings rs :: behind }
      m.addReadings office id rs = .ok (changed, rs.length) ∧
        m.apply (.readings office id rs) = changed := by
  obtain ⟨named, front, behind, parts, others⟩ := List.find?_eq_some_iff_append.1 found
  have updated : updateFirst (·.isNamed office id) (·.addReadings rs) m.series
      = some (front ++ stored.addReadings rs :: behind) := by
    rw [parts]
    exact updateFirst_append (fun s hs => by simpa using others s hs) named
  refine ⟨front, behind, parts, ?_⟩
  have taken : m.addReadings office id rs
      = .ok ({ m with series := front ++ stored.addReadings rs :: behind }, rs.length) := by
    rw [addReadings, updated]
  exact ⟨taken, by rw [apply, taken]⟩

/-- The series under a name after a change: a new one where there was none, with the readings that
were given for the name. -/
theorem findSeries?_apply (m : MemoryStore) {c : Change} (kept : c ≠ .clearing)
    (office id : String) :
    (m.apply c).findSeries? office id
      = ((m.findSeries? office id).or
          ((c.newSeries.find? (·.isNamed office id)).map fun s => ⟨s, .empty⟩)).map
        (·.addReadings (c.readingsFor office id)) := by
  have still {found : Option StoredSeries} : found = (found.or none).map (·.addReadings []) := by
    cases found <;> rfl
  cases c with
  | series s =>
    have appended : (m.apply (.series s)).findSeries? office id = (m.findSeries? office id).or
        (([s].find? (·.isNamed office id)).map fun s => ⟨s, .empty⟩) := by
      change List.find? _ (m.series ++ [StoredSeries.mk s .empty]) = _
      rw [List.find?_append, List.find?_singleton, List.find?_singleton,
        StoredSeries.isNamed_eq]
      cases s.isNamed office id <;> rfl
    rw [appended]
    exact (Option.map_id_apply).symm
  | readings o i rs =>
    have unchanged : (Change.readings o i rs).newSeries.find? (·.isNamed office id) = none := rfl
    rw [unchanged, Option.map_none, Option.or_none, apply, addReadings]
    cases updated : updateFirst (·.isNamed o i) (·.addReadings rs) m.series with
    | some ss => exact find?_updateFirst updated
    | none =>
      have noOther := List.find?_eq_none.1 (updateFirst_eq_none.1 updated)
      change m.findSeries? office id = _
      cases found : m.findSeries? office id with
      | none => rfl
      | some s =>
        have first : m.series.find? (·.isNamed office id) = some s := found
        have named : s.isNamed office id = true := by simpa using List.find?_some first
        rw [Option.map_some, Change.readingsFor_of_isNamed' named,
          if_neg (noOther s (List.mem_of_find?_eq_some first))]
        rfl
  | clearing => exact absurd rfl kept
  | _ => exact still

/-! ## Several changes -/

theorem applyAll_append (m : MemoryStore) (cs cs' : List Change) :
    m.applyAll (cs ++ cs') = (m.applyAll cs).applyAll cs' := List.foldl_append

/-- The first series of a name after some changes of an empty store was registered at some time when
there was no other one of that name.  Nothing was cleared since, and it has the readings that were
given for the name since, up to the case of letters. -/
theorem exists_registration {changes : List Change} {office id : String} {stored : StoredSeries}
    (found : (applyAll {} changes).findSeries? office id = some stored) :
    ∃ before after, changes = before ++ .series stored.series :: after ∧
      (∀ c ∈ after, c ≠ .clearing) ∧ (applyAll {} before).findSeries? office id = none ∧
      stored = StoredSeries.addReadings ⟨stored.series, .empty⟩
        (after.flatMap (Change.readingsFor office id)) := by
  induction changes using List.reverseRecOn generalizing stored with
  | nil => cases found
  | append_singleton cs c ih =>
    by_cases clearing : c = .clearing
    · subst clearing
      rw [applyAll_append] at found
      cases found
    rw [applyAll_append] at found
    change ((applyAll {} cs).apply c).findSeries? office id = some stored at found
    rw [findSeries?_apply _ clearing] at found
    obtain ⟨s, there, rfl⟩ := Option.map_eq_some_iff.1 found
    cases earlier : (applyAll {} cs).findSeries? office id with
    | some s' =>
      -- it was there before the last change, which may have given it readings
      rw [earlier] at there
      cases there
      obtain ⟨before, after, rfl, kept, new, history⟩ := ih earlier
      refine ⟨before, after ++ [c], List.append_assoc .., ?_, new, ?_⟩
      · intro d hd
        rcases List.mem_append.1 hd with earlier | last
        · exact kept d earlier
        · exact List.mem_singleton.1 last ▸ clearing
      · rw [List.flatMap_append, List.flatMap_singleton, ← StoredSeries.addReadings_addReadings]
        exact congrArg (fun t : StoredSeries => t.addReadings _) history
    | none =>
      -- the last change has registered it
      rw [earlier, Option.none_or] at there
      obtain ⟨new, registered, rfl⟩ := Option.map_eq_some_iff.1 there
      cases c with
      | series s =>
        obtain rfl : new = s := List.mem_singleton.1 (List.mem_of_find?_eq_some registered)
        exact ⟨cs, [], rfl, List.forall_mem_nil _, earlier, rfl⟩
      | _ => simp [Change.newSeries] at registered

/-- The first series of a name holds, for each instant, the last reading that was given for the name
since it was registered. -/
theorem holdsLast_of_found {changes : List Change} {office id : String} {stored : StoredSeries}
    (found : (applyAll {} changes).findSeries? office id = some stored) :
    ∃ before after, changes = before ++ .series stored.series :: after ∧
      (∀ c ∈ after, c ≠ .clearing) ∧ (applyAll {} before).findSeries? office id = none ∧
      stored.HoldsLast (after.flatMap (Change.readingsFor office id)) := by
  obtain ⟨before, after, history, kept, new, given⟩ := exists_registration found
  exact ⟨before, after, history, kept, new,
    given ▸ StoredSeries.holdsLast_addReadings stored.series _⟩

end MemoryStore

end HydroArchive
