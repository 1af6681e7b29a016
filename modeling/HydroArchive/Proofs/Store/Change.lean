import Mathlib.Data.List.Forall2
import HydroArchive.Store.Memory

/-!
# How a store changes

The operations that change a store in memory, as data, so that statements can be about every order
in which they happen.  All but two of them only add something: none of these takes a series away,
and readings are only added to a series or given new values.

## Main definitions

* `Change`, `MemoryStore.apply`, `MemoryStore.applyAll` — one change, and several in a row.
* `MemoryStore.registered` — the series of a store without their readings.
* `StoredSeries.Grown` — what storing readings does to a series.

## Main statements

* `registered_applyAll` — the series after some additions.
* `grown_applyAll` — the readings after some of them were stored.
-/

namespace HydroArchive

/-- A change of a store in memory. -/
inductive Change where
  | office (o : Office)
  | series (s : Series)
  | location (l : Location)
  | locationCategory (c : Category)
  | locationGroup (g : LocationGroup)
  | assignment (category group : String) (a : Assignment)
  | seriesCategory (c : Category)
  | seriesGroup (g : SeriesGroup)
  | conversion (source target : String) (c : Conversion)
  | readings (office id : String) (readings : List Reading)
  | health (healthy : Bool)
  | clearing

namespace Change

/-- Whether a change adds something; what is left is the mark of health and removing all
contents. -/
def isAddition : Change → Bool
  | health _ | clearing => false
  | _ => true

def newSeries : Change → List Series
  | series s => [s]
  | _ => []

/-- Whether a change does nothing but store readings, all at instants with a property. -/
def StoresOnly (p : Instant → Prop) : Change → Prop
  | readings _ _ rs => ∀ r ∈ rs, p r.time
  | _ => False

end Change

namespace MemoryStore

/-- The store after a change; storing readings of a series that is not there leaves it alone. -/
def apply (m : MemoryStore) : Change → MemoryStore
  | .office o => m.addOffice o
  | .series s => m.addSeries s
  | .location l => m.addLocation l
  | .locationCategory c => m.addLocationCategory c
  | .locationGroup g => m.addLocationGroup g
  | .assignment category group a => m.assign category group a
  | .seriesCategory c => m.addSeriesCategory c
  | .seriesGroup g => m.addSeriesGroup g
  | .conversion source target c => m.addConversion source target c
  | .readings office id rs =>
    match m.addReadings office id rs with
    | .ok (changed, _) => changed
    | .error _ => m
  | .health healthy => m.setHealthy healthy
  | .clearing => m.clear

def applyAll (m : MemoryStore) (changes : List Change) : MemoryStore := changes.foldl apply m

def registered (m : MemoryStore) : List Series := m.series.map StoredSeries.series

end MemoryStore

/-! ## Storing readings -/

/-- A series before and after readings were stored: it is the same series, no instant is lost, and
the new instants have a property. -/
structure StoredSeries.Grown (p : Instant → Prop) (s s' : StoredSeries) : Prop where
  series : s'.series = s.series
  kept : ∀ e ∈ s.values.entries, ∃ e' ∈ s'.values.entries, e'.1 = e.1
  added : ∀ e' ∈ s'.values.entries, (∃ e ∈ s.values.entries, e.1 = e'.1) ∨ p e'.1

namespace StoredSeries.Grown

variable {p : Instant → Prop} {s s' s'' : StoredSeries}

theorem refl (p : Instant → Prop) (s : StoredSeries) : Grown p s s where
  series := rfl
  kept e he := ⟨e, he, rfl⟩
  added e he := Or.inl ⟨e, he, rfl⟩

theorem trans (h : Grown p s s') (k : Grown p s' s'') : Grown p s s'' where
  series := k.series.trans h.series
  kept e he := by
    obtain ⟨e', he', same⟩ := h.kept e he
    obtain ⟨e'', he'', same'⟩ := k.kept e' he'
    exact ⟨e'', he'', same'.trans same⟩
  added e'' he'' := by
    rcases k.added e'' he'' with ⟨e', he', same'⟩ | new
    · rcases h.added e' he' with ⟨e, he, same⟩ | new
      · exact Or.inl ⟨e, he, same.trans same'⟩
      · exact Or.inr (same' ▸ new)
    · exact Or.inr new

theorem isNamed (h : Grown p s s') (office id : String) :
    s'.isNamed office id = s.isNamed office id := by
  rw [StoredSeries.isNamed, StoredSeries.isNamed, h.series]

theorem insert (s : StoredSeries) {t : Instant} (v : StoredValue) (h : p t) :
    Grown p s { s with values := s.values.insert t v } where
  series := rfl
  kept e he := by
    by_cases same : e.1 = t
    · exact ⟨(t, v), (Timeline.mem_insertEntry s.values.ascending).2 (Or.inl rfl), same.symm⟩
    · exact ⟨e, (Timeline.mem_insertEntry s.values.ascending).2 (Or.inr ⟨he, same⟩), rfl⟩
  added e' he' := by
    rcases (Timeline.mem_insertEntry s.values.ascending).1 he' with rfl | ⟨old, -⟩
    · exact Or.inr h
    · exact Or.inl ⟨e', old, rfl⟩

theorem addReadings (s : StoredSeries) {rs : List Reading} (h : ∀ r ∈ rs, p r.time) :
    Grown p s (s.addReadings rs) := by
  induction rs generalizing s with
  | nil => exact refl p s
  | cons r rs ih =>
    exact (insert s ⟨r.value, r.quality⟩ (h r List.mem_cons_self)).trans
      (ih _ fun q hq => h q (List.mem_cons_of_mem r hq))

end StoredSeries.Grown

namespace MemoryStore

open StoredSeries (Grown)

theorem forall₂_grown_refl (p : Instant → Prop) (ss : List StoredSeries) :
    List.Forall₂ (Grown p) ss ss := List.forall₂_same.2 fun s _ => .refl p s

theorem forall₂_grown_trans {p : Instant → Prop} {ss ss' ss'' : List StoredSeries}
    (h : List.Forall₂ (Grown p) ss ss') (k : List.Forall₂ (Grown p) ss' ss'') :
    List.Forall₂ (Grown p) ss ss'' := by
  induction h generalizing ss'' with
  | nil => exact k
  | cons g _ ih =>
    cases k with
    | cons g' rest => exact .cons (g.trans g') (ih rest)

theorem grown_updateFirst {p : Instant → Prop} {accepts : StoredSeries → Bool}
    {change : StoredSeries → StoredSeries} (h : ∀ s, Grown p s (change s))
    {ss ss' : List StoredSeries} (done : updateFirst accepts change ss = some ss') :
    List.Forall₂ (Grown p) ss ss' := by
  induction ss generalizing ss' with
  | nil => cases done
  | cons s ss ih =>
    rw [updateFirst] at done
    split at done
    · cases done
      exact .cons (h s) (forall₂_grown_refl p ss)
    · obtain ⟨rest, hrest, rfl⟩ := Option.map_eq_some_iff.1 done
      exact .cons (.refl p s) (ih hrest)

/-! ## One change -/

section Apply

variable {p : Instant → Prop} {c : Change}

/-- Storing readings changes nothing but the readings. -/
theorem apply_readings (m : MemoryStore) (h : c.StoresOnly p) :
    ∃ ss, m.apply c = { m with series := ss } ∧ List.Forall₂ (Grown p) m.series ss := by
  cases c with
  | readings office id rs =>
    rw [apply, addReadings]
    split
    case h_1 changed n done =>
      split at done
      case h_1 ss updated =>
        cases done
        exact ⟨ss, rfl, grown_updateFirst (fun s => .addReadings s h) updated⟩
      case h_2 => cases done
    case h_2 => exact ⟨m.series, rfl, forall₂_grown_refl p m.series⟩
  | _ => cases h

theorem map_series_of_grown {ss ss' : List StoredSeries} (h : List.Forall₂ (Grown p) ss ss') :
    ss'.map StoredSeries.series = ss.map StoredSeries.series := by
  induction h with
  | nil => rfl
  | cons g _ ih => rw [List.map_cons, List.map_cons, ih, g.series]

theorem healthy_apply (m : MemoryStore) (h : c.isAddition = true) :
    (m.apply c).healthy = m.healthy := by
  cases c with
  | readings office id rs =>
    obtain ⟨ss, changed, -⟩ := apply_readings (p := fun _ => True) (c := .readings office id rs) m
      fun _ _ => trivial
    rw [changed]
  | health => cases h
  | clearing => cases h
  | _ => rfl

/-- An addition registers series behind those that are there. -/
theorem registered_apply (m : MemoryStore) (h : c.isAddition = true) :
    (m.apply c).registered = m.registered ++ c.newSeries := by
  cases c with
  | series s => exact List.map_append
  | readings office id rs =>
    obtain ⟨ss, changed, grown⟩ := apply_readings (p := fun _ => True) (c := .readings office id rs)
      m fun _ _ => trivial
    rw [changed]
    exact (map_series_of_grown grown).trans (List.append_nil _).symm
  | health => cases h
  | clearing => cases h
  | _ => exact (List.append_nil _).symm

end Apply

/-! ## Several changes -/

section ApplyAll

variable {p : Instant → Prop} {changes : List Change}

theorem healthy_applyAll (m : MemoryStore) (h : ∀ c ∈ changes, c.isAddition = true) :
    (m.applyAll changes).healthy = m.healthy := by
  induction changes generalizing m with
  | nil => rfl
  | cons c cs ih =>
    exact (ih (m.apply c) fun d hd => h d (List.mem_cons_of_mem c hd)).trans
      (healthy_apply m (h c List.mem_cons_self))

/-- After some additions, the new series stand behind those that were there before. -/
theorem registered_applyAll (m : MemoryStore) (h : ∀ c ∈ changes, c.isAddition = true) :
    (m.applyAll changes).registered = m.registered ++ changes.flatMap Change.newSeries := by
  induction changes generalizing m with
  | nil => exact (List.append_nil _).symm
  | cons c cs ih =>
    have rest := ih (m.apply c) fun d hd => h d (List.mem_cons_of_mem c hd)
    rw [registered_apply m (h c List.mem_cons_self)] at rest
    rw [List.flatMap_cons, ← List.append_assoc]
    exact rest

/-- After some readings were stored, nothing but the readings has changed, and the series have
grown. -/
theorem grown_applyAll (m : MemoryStore) (h : ∀ c ∈ changes, c.StoresOnly p) :
    ∃ ss, m.applyAll changes = { m with series := ss } ∧
      List.Forall₂ (Grown p) m.series ss := by
  induction changes generalizing m with
  | nil => exact ⟨m.series, rfl, forall₂_grown_refl p m.series⟩
  | cons c cs ih =>
    obtain ⟨ss, changed, grown⟩ := apply_readings m (h c List.mem_cons_self)
    obtain ⟨ss', changed', grown'⟩ := ih (m.apply c) fun d hd => h d (List.mem_cons_of_mem c hd)
    rw [changed] at changed' grown'
    refine ⟨ss', ?_, ?_⟩
    · rw [applyAll, List.foldl_cons, changed]
      exact changed'
    · exact forall₂_grown_trans grown grown'

end ApplyAll

end MemoryStore

end HydroArchive
