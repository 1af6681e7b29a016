import HydroArchive.Retrieval.Catalog
import HydroArchive.Store.Memory

/-!
# Who is to answer for a failure

A request is understood before any store is asked.  So what is wrong with a request does not depend
on what the archive holds or whether it can be reached, and a failure of a store is never laid to
the charge of the request.  A window that leads out of the calendar is the request's, too: it makes
the request break off before any store is asked.

## Main definitions

* `Queries.Thwarts`, `ThwartsCatalog` — the failures that the answers of a store make.
* `Apportioned` — how the failures of an operation are divided between request and store.

## Main statements

* `apportioned_readings`, `apportioned_catalog` — the failures of each operation.
* `failures_apportioned` — all of them, and the order in which a request for readings is checked.
-/

namespace HydroArchive

/-! ## Chains of steps -/

section Chains

variable {ε ε' α β : Type}

theorem bind_eq_ok {x : Except ε α} {f : α → Except ε β} {b : β} :
    (x >>= f) = .ok b ↔ ∃ a, x = .ok a ∧ f a = .ok b := by
  cases x <;> simp [bind, Except.bind]

theorem bind_eq_error {x : Except ε α} {f : α → Except ε β} {e : ε} :
    (x >>= f) = .error e ↔ x = .error e ∨ ∃ a, x = .ok a ∧ f a = .error e := by
  cases x <;> simp [bind, Except.bind]

@[simp] theorem mapError_eq_ok {x : Except ε α} {f : ε → ε'} {a : α} :
    x.mapError f = .ok a ↔ x = .ok a := by
  cases x with
  | ok b => exact ⟨fun h => congrArg _ (Except.ok.inj h), fun h => congrArg _ (Except.ok.inj h)⟩
  | error e => exact ⟨nofun, nofun⟩

theorem mapError_eq_error {x : Except ε α} {f : ε → ε'} {e : ε'} :
    x.mapError f = .error e ↔ ∃ cause, x = .error cause ∧ f cause = e := by
  cases x with
  | ok b => exact ⟨nofun, nofun⟩
  | error cause =>
    constructor
    · intro h
      exact ⟨cause, rfl, Except.error.inj h⟩
    · rintro ⟨_, same, rfl⟩
      cases same
      rfl

theorem map_eq_ok {x : Except ε α} {f : α → β} {b : β} :
    x.map f = .ok b ↔ ∃ a, x = .ok a ∧ f a = b := by
  cases x <;> simp [Except.map]

theorem map_eq_error {x : Except ε α} {f : α → β} {e : ε} :
    x.map f = .error e ↔ x = .error e := by
  cases x <;> simp [Except.map]

end Chains

/-! ## Requests -/

theorem requestedToken_eq_error {cursor : Option String} {kind : PageKind} {e : RetrievalError} :
    requestedToken cursor kind = .error e ↔ ∃ text cause, Text.nonBlank? cursor = some text ∧
      PageToken.decode text kind = .error cause ∧ e = .malformedCursor cause := by
  rw [requestedToken]
  cases Text.nonBlank? cursor with
  | none => simp
  | some text =>
    simp only [mapError_eq_error, map_eq_error, Option.some.injEq]
    grind

theorem valuesPlan_eq_error {token : Option PageToken} {window : TimeWindow} {requested : Int32}
    {cause : CursorError} :
    ValuesQuery.plan token window requested = .error cause
      ↔ resumeInstant token = .error cause := by
  rw [ValuesQuery.plan, bind_eq_error]
  simp [pure, Except.pure]

/-- What is wrong with a request for readings, in the order in which it is looked for. -/
theorem planReadings_eq_error {request : ReadingsRequest} {now : Instant} {e : RetrievalError} :
    planReadings request now = .error e ↔
      requestedToken request.cursor .values = .error e ∨
      ∃ token, requestedToken request.cursor .values = .ok token ∧
        ((∃ cause, TimeWindow.resolve request.beginText request.endText request.zoneName now
            = .error cause ∧ e = .invalidTime cause) ∨
          ∃ window, TimeWindow.resolve request.beginText request.endText request.zoneName now
              = .ok window ∧
            ∃ cause, resumeInstant token = .error cause ∧ e = .malformedCursor cause) := by
  simp only [planReadings, bind_eq_error, mapError_eq_error, mapError_eq_ok, valuesPlan_eq_error,
    pure, Except.pure, reduceCtorEq, and_false, exists_false, or_false]
  grind

theorem origin_of_planReadings {request : ReadingsRequest} {now : Instant} {e : RetrievalError}
    (h : planReadings request now = .error e) : e.origin = .request := by
  rcases planReadings_eq_error.1 h with cursor | ⟨-, -, ⟨-, -, rfl⟩ | ⟨-, -, -, -, rfl⟩⟩
  · obtain ⟨-, -, -, -, rfl⟩ := requestedToken_eq_error.1 cursor
    rfl
  · rfl
  · rfl

theorem origin_of_planCatalog {request : CatalogRequest} {e : RetrievalError}
    (h : planCatalog request = .error e) : e.origin = .request := by
  rw [planCatalog, bind_eq_error] at h
  rcases h with cursor | ⟨_, -, refused⟩
  · obtain ⟨-, -, -, -, rfl⟩ := requestedToken_eq_error.1 cursor
    rfl
  · obtain ⟨-, -, rfl⟩ := mapError_eq_error.1 refused
    rfl

/-! ## Stores -/

/-- The failures that the answers of a store make where readings of a name are asked for. -/
inductive Queries.Thwarts (store : Queries) (office : Option String) (name : String) :
    RetrievalError → Prop where
  | lookup {cause : StoreError} (h : store.series office name = .error cause) :
      Thwarts store office name (.store cause)
  | absence (h : store.series office name = .ok none) :
      Thwarts store office name (.notFound .series name)
  | count {series : Series} {first last : Instant} {cause : StoreError}
      (h : store.countReadings series first last = .error cause) :
      Thwarts store office name (.store cause)
  | readings {series : Series} {unit : String} {q : ValuesQuery} {cause : StoreError}
      (h : store.readings series unit q = .error cause) : Thwarts store office name (.store cause)

/-- The failures that a count and an answer to queries make where a catalog is asked for. -/
inductive ThwartsCatalog {ρ : Type} (count : Option String → Except StoreError Nat)
    (rows : CatalogQuery → Except StoreError (List ρ)) : RetrievalError → Prop where
  | count {office : Option String} {cause : StoreError} (h : count office = .error cause) :
      ThwartsCatalog count rows (.store cause)
  | rows {q : CatalogQuery} {cause : StoreError} (h : rows q = .error cause) :
      ThwartsCatalog count rows (.store cause)

/-- How the failures of an operation are divided.  Those of the request are the same for every
store, and all others are made by the store; the store makes none that the request is blamed for. -/
structure Apportioned {π : Type} (operation : Queries → Except RetrievalError π)
    (thwarts : Queries → RetrievalError → Prop) : Prop where
  request : ∀ store store' e, e.origin = .request →
    (operation store = .error e ↔ operation store' = .error e)
  store : ∀ store e, operation store = .error e → e.origin = .request ∨ thwarts store e
  innocent : ∀ store e, thwarts store e → e.origin ≠ .request

/-- The failures are divided if the request is understood first and the store is asked then. -/
theorem apportioned_bind {π α : Type} {plan : Except RetrievalError α}
    {ask : Queries → α → Except RetrievalError π} {thwarts : Queries → RetrievalError → Prop}
    (blamed : ∀ e, plan = .error e → e.origin = .request)
    (made : ∀ store a e, ask store a = .error e → thwarts store e)
    (innocent : ∀ store e, thwarts store e → e.origin ≠ .request) :
    Apportioned (fun store => plan >>= ask store) thwarts := by
  -- of the two ways to fail, only the first gives a failure of the request
  have fails : ∀ store e, e.origin = .request →
      ((plan >>= ask store) = .error e ↔ plan = .error e) := by
    intro store e origin
    refine ⟨fun h => ?_, fun h => bind_eq_error.2 (Or.inl h)⟩
    rcases bind_eq_error.1 h with refused | ⟨a, -, failed⟩
    · exact refused
    · exact absurd origin (innocent store e (made store a e failed))
  refine ⟨fun store store' e origin => ?_, fun store e h => ?_, innocent⟩
  · exact (fails store e origin).trans (fails store' e origin).symm
  · rcases bind_eq_error.1 h with refused | ⟨a, -, failed⟩
    · exact Or.inl (blamed e refused)
    · exact Or.inr (made store a e failed)

/-- The failures of an operation may be put down to the store in another way. -/
theorem Apportioned.imp {π : Type} {operation : Queries → Except RetrievalError π}
    {thwarts thwarts' : Queries → RetrievalError → Prop} (h : Apportioned operation thwarts)
    (made : ∀ store e, thwarts store e → thwarts' store e)
    (innocent : ∀ store e, thwarts' store e → e.origin ≠ .request) :
    Apportioned operation thwarts' where
  request := h.request
  store store e failed := (h.store store e failed).imp_right (made store e)
  innocent := innocent

theorem Queries.Thwarts.origin_ne {store : Queries} {office : Option String} {name : String}
    {e : RetrievalError} (h : store.Thwarts office name e) : e.origin ≠ .request := by
  cases h <;> nofun

theorem requestedSeries_eq_error {store : Queries} {request : ReadingsRequest}
    {e : RetrievalError} (h : requestedSeries store request = .error e) :
    store.Thwarts (Text.nonBlank? request.office) request.name e := by
  rw [requestedSeries, bind_eq_error] at h
  rcases h with failed | ⟨found, looked, absent⟩
  · obtain ⟨cause, answer, rfl⟩ := mapError_eq_error.1 failed
    exact .lookup answer
  · cases found with
    | some series => cases absent
    | none =>
      cases absent
      exact .absence (mapError_eq_ok.1 looked)

theorem listingTotal_eq_error {α : Type} {plan : PagePlan α} {count : Except StoreError Nat}
    {e : RetrievalError} (h : listingTotal plan count = .error e) :
    ∃ cause, count = .error cause ∧ e = .store cause := by
  rw [listingTotal] at h
  split at h
  · obtain ⟨cause, failed, rfl⟩ := mapError_eq_error.1 h
    exact ⟨cause, map_eq_error.1 failed, rfl⟩
  · cases h

theorem pageReadings_eq_error {store : Queries} {series : Series} {unit : String}
    {plan : PagePlan ValuesQuery} {e : RetrievalError}
    (h : pageReadings store series unit plan = .error e) :
    ∃ cause, store.readings series unit plan.query = .error cause ∧ e = .store cause := by
  rw [pageReadings] at h
  split at h
  · obtain ⟨cause, failed, rfl⟩ := mapError_eq_error.1 h
    exact ⟨cause, map_eq_error.1 failed, rfl⟩
  · cases h

section Catalogs

variable {ρ : Type} {count : Option String → Except StoreError Nat} {e : RetrievalError}

theorem ThwartsCatalog.origin_ne {rows : CatalogQuery → Except StoreError (List ρ)}
    (h : ThwartsCatalog count rows e) : e.origin ≠ .request := by
  cases h <;> nofun

/-- Rows that are put together differently fail to arrive for the same reasons. -/
theorem ThwartsCatalog.of_map {σ : Type} {rows : CatalogQuery → Except StoreError (List σ)}
    {f : List σ → List ρ} (h : ThwartsCatalog count (fun q => (rows q).map f) e) :
    ThwartsCatalog count rows e := by
  cases h with
  | count failed => exact .count failed
  | rows failed => exact .rows (map_eq_error.1 failed)

end Catalogs

theorem apportioned_readings (request : ReadingsRequest) (now : Instant) :
    Apportioned (fun store => retrieveReadings store request now) fun store =>
      store.Thwarts (Text.nonBlank? request.office) request.name := by
  refine apportioned_bind (fun e => origin_of_planReadings) (fun store planned e h => ?_)
    fun store e => Queries.Thwarts.origin_ne
  rcases bind_eq_error.1 h with failed | ⟨series, -, h⟩
  · exact requestedSeries_eq_error failed
  rcases bind_eq_error.1 h with failed | ⟨total, -, h⟩
  · obtain ⟨cause, answer, rfl⟩ := listingTotal_eq_error failed
    exact .count answer
  rcases bind_eq_error.1 h with failed | ⟨rows, -, h⟩
  · obtain ⟨cause, answer, rfl⟩ := pageReadings_eq_error failed
    exact .readings answer
  · cases h

theorem apportioned_catalog {ρ ε : Type} (count : Queries → Option String → Except StoreError Nat)
    (rows : Queries → CatalogQuery → Except StoreError (List ρ)) (key : ρ → CatalogKey)
    (entry : ρ → ε) (request : CatalogRequest) :
    Apportioned (fun store => retrieveCatalog (count store) (rows store) key entry request)
      fun store => ThwartsCatalog (count store) (rows store) := by
  refine apportioned_bind (fun e => origin_of_planCatalog) (fun store plan e h => ?_)
    fun store e => ThwartsCatalog.origin_ne
  rcases bind_eq_error.1 h with failed | ⟨total, -, h⟩
  · obtain ⟨cause, answer, rfl⟩ := listingTotal_eq_error failed
    exact .count answer
  rcases bind_eq_error.1 h with failed | ⟨all, -, h⟩
  · obtain ⟨cause, answer, rfl⟩ := mapError_eq_error.1 failed
    exact .rows answer
  · cases h

/-! ## The division of failures -/

/-- A request for readings that cannot be understood fails for every store, whatever its answers. -/
theorem retrieveReadings_of_refused {request : ReadingsRequest} {now : Instant}
    {e : RetrievalError} (h : planReadings request now = .error e) (store : Queries) :
    retrieveReadings store request now = .error e := by
  rw [retrieveReadings, h]
  rfl

/-- What is wrong with a request does not depend on the store, and what the store does is never
blamed on the request.  Of a request for readings, the cursor is looked at first, then the window,
then the key in the cursor, and only then is the store asked. -/
theorem failures_apportioned (request : ReadingsRequest) (listing : CatalogRequest)
    (now : Instant) :
    Apportioned (fun store => retrieveReadings store request now)
        (fun store => store.Thwarts (Text.nonBlank? request.office) request.name) ∧
      Apportioned (fun store => retrieveSeriesCatalog store listing)
        (fun store => ThwartsCatalog store.countSeries store.seriesCatalog) ∧
      Apportioned (fun store => retrieveLocationCatalog store listing)
        (fun store => ThwartsCatalog store.countLocations store.locationCatalog) ∧
      (∀ store text cause, Text.nonBlank? request.cursor = some text →
        PageToken.decode text .values = .error cause →
          retrieveReadings store request now = .error (.malformedCursor cause)) ∧
      (∀ store token cause, requestedToken request.cursor .values = .ok token →
        TimeWindow.resolve request.beginText request.endText request.zoneName now = .error cause →
          retrieveReadings store request now = .error (.invalidTime cause)) ∧
      ∀ store token window cause, requestedToken request.cursor .values = .ok token →
        TimeWindow.resolve request.beginText request.endText request.zoneName now = .ok window →
        resumeInstant token = .error cause →
          retrieveReadings store request now = .error (.malformedCursor cause) := by
  refine ⟨apportioned_readings request now, apportioned_catalog _ _ _ _ listing, ?_, ?_, ?_, ?_⟩
  · exact (apportioned_catalog _ _ _ _ listing).imp (fun store e => ThwartsCatalog.of_map)
      fun store e => ThwartsCatalog.origin_ne
  · intro store text cause given unreadable
    have token := requestedToken_eq_error.2 ⟨text, cause, given, unreadable, rfl⟩
    exact retrieveReadings_of_refused (planReadings_eq_error.2 (Or.inl token)) store
  · intro store token cause accepted refused
    exact retrieveReadings_of_refused
      (planReadings_eq_error.2 (Or.inr ⟨token, accepted, Or.inl ⟨cause, refused, rfl⟩⟩)) store
  · intro store token window cause accepted resolved refused
    exact retrieveReadings_of_refused (planReadings_eq_error.2
      (Or.inr ⟨token, accepted, Or.inr ⟨window, resolved, cause, refused, rfl⟩⟩)) store

/-- A request for a series that no store need have, with a cursor and in a zone. -/
def faultyRequest (cursor zoneName : String) : ReadingsRequest :=
  ⟨"KEYS.Elev", none, none, none, none, some zoneName, some cursor, 1⟩

/-- Of a cursor that is no base 64, an unknown zone and a key that is no time, each hides the next,
and all of them hide that the store cannot be reached. -/
theorem failures_apportioned_sample :
    let unreachable := MemoryStore.queries { healthy := false }
    let now : Instant := ⟨86400, 0, by decide⟩
    retrieveReadings unreachable (faultyRequest "%" "Nowhere") now
        = .error (.malformedCursor .invalidEncoding) ∧
      retrieveReadings unreachable (faultyRequest "eA==" "Nowhere") now
        = .error (.invalidTime (.refused (.unknownZone "Nowhere"))) ∧
      retrieveReadings unreachable (faultyRequest "eA==" "UTC") now
        = .error (.malformedCursor (.invalidResumeKey "x")) ∧
      retrieveReadings (MemoryStore.queries {}) (faultyRequest "eA==" "UTC") now
        = .error (.malformedCursor (.invalidResumeKey "x")) := by
  intro unreachable now
  have token : requestedToken (some "eA==") .values = .ok (some ⟨.values, "x", none, 0⟩) := rfl
  have all (cursor zoneName : String) :=
    failures_apportioned (faultyRequest cursor zoneName) ⟨none, none, 1, .si⟩ now
  obtain ⟨-, -, -, unreadable, -⟩ := all "%" "Nowhere"
  obtain ⟨-, -, -, -, unknown, -⟩ := all "eA==" "Nowhere"
  obtain ⟨readings, -, -, -, -, noTime⟩ := all "eA==" "UTC"
  have refused := noTime unreachable _ _ (.invalidResumeKey "x") token rfl rfl
  exact ⟨unreadable unreachable "%" .invalidEncoding rfl rfl,
    unknown unreachable _ (.refused (.unknownZone "Nowhere")) token rfl, refused,
    (readings.request _ _ _ rfl).1 refused⟩

end HydroArchive
