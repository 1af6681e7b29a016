import HydroArchive.Proofs.Page.Cursor
import HydroArchive.Proofs.Page.Walk
import HydroArchive.Proofs.Store.Change
import HydroArchive.Retrieval.Catalog

/-!
# Following cursors

A caller asks for the first page of a listing without a cursor and for each later one with the
cursor that came with the page before, until a page comes without one.  Between two requests the
store may change.

If every answer shows the portion of the listing that its cursor asks for, then the whole walk shows
the portions of `HydroArchive.Proofs.Page.Walk`.  What has to be shown of a kind of page is one step
for the first request and one for a later one.

## Main definitions

* `follow` — the answers to requests that follow the cursors.
* `Visit`, `MemoryStore.met`, `MemoryStore.walk` — a walk through a listing of a store that changes.
* `Finished` — the end of a walk.
* `Shows` — a page shows a portion of a listing.

## Main statements

* `follow_shows`, `walk_shows` — a walk shows the portions of the listing.
-/

namespace HydroArchive

/-- The answers to requests of which each carries the cursor of the page before, until one fails or
there is no next page. -/
def follow {ε π : Type} (next : π → Option String) :
    Option String → List (Option String → Except ε π) → List (Except ε π)
  | _, [] => []
  | cursor, ask :: later =>
    ask cursor :: match ask cursor with
      | .error _ => []
      | .ok page =>
        match next page with
        | none => []
        | some c => follow next (some c) later

/-- What happens before a page other than the first is asked for, and the page size that the request
names. -/
structure Visit where
  changes : List Change
  pageSize : Int32

namespace MemoryStore

/-- The stores that the later requests of a walk meet. -/
def met (m : MemoryStore) : List Visit → List MemoryStore
  | [] => []
  | v :: later => m.applyAll v.changes :: (m.applyAll v.changes).met later

/-- The later requests of a walk, still without their cursors. -/
def laterRequests {π : Type}
    (retrieve : Queries → Int32 → Option String → Except RetrievalError π) (m : MemoryStore) :
    List Visit → List (Option String → Except RetrievalError π)
  | [] => []
  | v :: later =>
    retrieve (m.applyAll v.changes).queries v.pageSize ::
      (m.applyAll v.changes).laterRequests retrieve later

/-- The answers of a walk through a listing. -/
def walk {π : Type} (retrieve : Queries → Int32 → Option String → Except RetrievalError π)
    (next : π → Option String) (m : MemoryStore) (pageSize : Int32) (visits : List Visit) :
    List (Except RetrievalError π) :=
  follow next none (retrieve m.queries pageSize :: m.laterRequests retrieve visits)

/-- What holds of the answers of every store that is met holds of the later requests. -/
theorem forall₂_laterRequests {π ρ : Type}
    {P : (Option String → Except RetrievalError π) → ρ → Prop}
    {retrieve : Queries → Int32 → Option String → Except RetrievalError π}
    {listing : MemoryStore → ρ} {m : MemoryStore} {visits : List Visit}
    (h : ∀ s ∈ m.met visits, ∀ size, P (retrieve s.queries size) (listing s)) :
    List.Forall₂ P (m.laterRequests retrieve visits) ((m.met visits).map listing) := by
  induction visits generalizing m with
  | nil => exact .nil
  | cons v later ih =>
    exact .cons (h _ List.mem_cons_self _) (ih fun s hs => h s (List.mem_cons_of_mem _ hs))

@[simp] theorem length_met (m : MemoryStore) (visits : List Visit) :
    (m.met visits).length = visits.length := by
  induction visits generalizing m with
  | nil => rfl
  | cons v later ih => rw [met, List.length_cons, ih, List.length_cons]

/-- A relation that is kept from each store to the next holds between the first one and all that are
met. -/
theorem forall_met {R : MemoryStore → MemoryStore → Prop} (refl : ∀ s, R s s)
    (trans : ∀ {s s' s''}, R s s' → R s' s'' → R s s'') {visits : List Visit}
    (step : ∀ v ∈ visits, ∀ s, R s (s.applyAll v.changes)) (m : MemoryStore) :
    ∀ s ∈ m :: m.met visits, R m s := by
  induction visits generalizing m with
  | nil =>
    intro s hs
    rw [List.mem_singleton.1 hs]
    exact refl m
  | cons v later ih =>
    intro s hs
    rcases List.mem_cons.1 hs with rfl | hs
    · exact refl s
    · exact trans (step v List.mem_cons_self m)
        (ih (fun w hw => step w (List.mem_cons_of_mem v hw)) _ s hs)

theorem eq_of_met {m : MemoryStore} {visits : List Visit} (h : ∀ v ∈ visits, v.changes = []) :
    ∀ s ∈ m :: m.met visits, s = m :=
  forall_met (R := fun s s' => s' = s) (fun _ => rfl) (fun h k => k.trans h)
    (fun v hv s => by
      rw [h v hv]
      rfl) m

end MemoryStore

theorem requestedToken_encode {t : PageToken} (short : t.encode.utf8ByteSize ≤ maxCursorLength) :
    requestedToken (some t.encode) t.kind = .ok (some t) := by
  rw [requestedToken, t.nonBlank?_encode]
  simp only [PageToken.decode_encode short]
  rfl

theorem effectivePageSize_of_pos {t : PageToken} (pos : 0 < t.pageSize) (requested : Int32) :
    effectivePageSize (some t) requested = t.pageSize := by
  simp [effectivePageSize, PageToken.hasPageSize, pos]

/-- Whether the pages of a walk end with one that has no next page. -/
def Finished {π : Type} (next : π → Option String) (pages : List π) : Prop :=
  pages.getLast?.map next = some none

/-! ## Pages and portions -/

/-- What a caller reads off a page. -/
structure PageView (π ε : Type) where
  next : π → Option String
  total : π → Option UInt64
  entries : π → List ε

section Shows

variable {π ε ρ κ : Type} (view : PageView π ε) (entry : ρ → ε) (total : Option UInt64)
  (cursor : κ → String)

/-- A page shows a portion of a listing: the entries of its rows, and the cursor of the key after
which the next portion starts. -/
structure Shows (page : π) (p : Portion ρ κ) : Prop where
  entries : view.entries page = p.rows.map entry
  next : view.next page = p.next.map cursor
  total : view.total page = total

variable {view entry total cursor} {pages : List π} {ps : List (Portion ρ κ)}

theorem entries_of_shows (h : List.Forall₂ (Shows view entry total cursor) pages ps) :
    pages.flatMap view.entries = (handedOut ps).map entry := by
  induction h with
  | nil => rfl
  | cons shows _ ih =>
    rw [List.flatMap_cons, handedOut_cons, List.map_append, shows.entries, ih]

theorem exists_shown (h : List.Forall₂ (Shows view entry total cursor) pages ps) {page : π}
    (hp : page ∈ pages) : ∃ p ∈ ps, Shows view entry total cursor page p := by
  induction h with
  | nil => cases hp
  | cons shows _ ih =>
    rcases List.mem_cons.1 hp with rfl | hp
    · exact ⟨_, List.mem_cons_self, shows⟩
    · obtain ⟨p, hp, shows⟩ := ih hp
      exact ⟨p, List.mem_cons_of_mem _ hp, shows⟩

theorem total_of_shows (h : List.Forall₂ (Shows view entry total cursor) pages ps) :
    ∀ page ∈ pages, view.total page = total := by
  intro page hp
  obtain ⟨p, -, shows⟩ := exists_shown h hp
  exact shows.total

theorem finished_of_shows (h : List.Forall₂ (Shows view entry total cursor) pages ps) :
    Finished view.next pages ↔ Ended ps := by
  rw [Finished]
  induction h with
  | nil => simp [Ended]
  | @cons page p pages ps shows later ih =>
    cases later with
    | nil => simp [Ended, shows.next]
    | cons => rw [List.getLast?_cons_cons, ih, Ended, Ended, List.getLast?_cons_cons]

section Full

variable {o : KeyOrder κ} {key : ρ → κ} {size : Nat} {place : Resume κ} {ls : List (List ρ)}

/-- A page with a next one is full. -/
theorem length_of_shows
    (h : List.Forall₂ (Shows view entry total cursor) pages (portions o key size place ls)) :
    ∀ page ∈ pages, (view.next page).isSome → (view.entries page).length = size := by
  intro page hp more
  obtain ⟨p, hp, shows⟩ := exists_shown h hp
  rw [shows.next, Option.isSome_map] at more
  rw [shows.entries, List.length_map]
  exact length_of_next_isSome hp more

/-- The cursor on a page carries the key of a row. -/
theorem exists_key_of_shows
    (h : List.Forall₂ (Shows view entry total cursor) pages (portions o key size place ls))
    {page : π} (hp : page ∈ pages) {c : String} (next : view.next page = some c) :
    ∃ rows ∈ ls, ∃ r ∈ rows, c = cursor (key r) := by
  obtain ⟨p, hp, shows⟩ := exists_shown h hp
  rw [shows.next] at next
  obtain ⟨k, hk, rfl⟩ := Option.map_eq_some_iff.1 next
  obtain ⟨q, rows, hrows, rfl⟩ := exists_portion_of_mem hp
  obtain ⟨r, hr, rfl⟩ := exists_mem_of_next hk
  exact ⟨rows, hrows, r, hr, rfl⟩

/-- All pages but the last of a walk have a next one. -/
theorem next_of_shows
    (h : List.Forall₂ (Shows view entry total cursor) pages (portions o key size place ls)) :
    ∀ page ∈ pages.dropLast, (view.next page).isSome := by
  intro page hp
  have front : List.Forall₂ (Shows view entry total cursor) pages.dropLast
      (portions o key size place ls).dropLast := by
    rw [List.dropLast_eq_take, List.dropLast_eq_take, h.length_eq]
    exact List.forall₂_take _ h
  obtain ⟨p, hp, shows⟩ := exists_shown front hp
  rw [shows.next, Option.isSome_map]
  exact next_isSome_of_mem_dropLast hp

/-- A walk through a listing that does not change takes as many pages as the rows need, and shows
all of them. -/
theorem unchanged_of_shows (pos : 0 < size) {rows : List ρ} (asc : Ascending o key rows)
    (same : ∀ l ∈ ls, l = rows)
    (h : List.Forall₂ (Shows view entry total cursor) pages (portions o key size .start ls)) :
    pages.length = min ls.length (pageCount size rows.length) ∧
      (pageCount size rows.length ≤ ls.length →
        Finished view.next pages ∧ pages.flatMap view.entries = rows.map entry) := by
  refine ⟨?_, fun enough => ?_⟩
  · rw [h.length_eq, length_portions_of_unchanged pos asc same, Resume.rest_start]
  · have all := portions_of_unchanged .start pos asc same (by rwa [Resume.rest_start])
    rw [Resume.rest_start] at all
    rw [finished_of_shows h, entries_of_shows h, all.2]
    exact ⟨all.1, rfl⟩

end Full

variable (view entry total cursor) in
/-- A walk shows the portions of the listing in the states in which it is met, if the first request
does and if each later one does, whichever key of the listing its cursor carries. -/
theorem follow_shows {o : KeyOrder κ} {key : ρ → κ} {size : Nat} (known : κ → Prop)
    {asks : List (Option String → Except RetrievalError π)} {ls : List (List ρ)}
    {ask : Option String → Except RetrievalError π} {rows : List ρ} {start : Option String}
    {place : Resume κ}
    (first : ∃ page, ask start = .ok page ∧
      Shows view entry total cursor page (portion o key size place rows))
    (later : List.Forall₂ (fun ask rows => ∀ k, known k →
      (cursor k).utf8ByteSize ≤ maxCursorLength → ∃ page, ask (some (cursor k)) = .ok page ∧
        Shows view entry total cursor page (portion o key size (.after k) rows)) asks ls)
    (keys : ∀ l ∈ rows :: ls, ∀ r ∈ l, known (key r))
    (short : ∀ page, .ok page ∈ follow view.next start (ask :: asks) →
      ∀ k, known k → view.next page = some (cursor k) →
        (cursor k).utf8ByteSize ≤ maxCursorLength) :
    ∃ pages, follow view.next start (ask :: asks) = pages.map .ok ∧
      List.Forall₂ (Shows view entry total cursor) pages
        (portions o key size place (rows :: ls)) := by
  induction later generalizing ask rows start place with
  | nil =>
    obtain ⟨page, answer, shows⟩ := first
    refine ⟨[page], ?_, ?_⟩
    · rw [follow, answer]
      simp only [follow]
      cases view.next page <;> rfl
    · rw [portions]
      simp only [portions]
      cases (portion o key size place rows).next <;> exact .cons shows .nil
  | @cons ask' rows' asks ls step _ ih =>
    obtain ⟨page, answer, shows⟩ := first
    rw [follow, answer] at short ⊢
    have next := shows.next
    cases hn : (portion o key size place rows).next with
    | none =>
      rw [hn, Option.map_none] at next
      rw [portions_of_next_eq_none hn]
      simp only [next]
      exact ⟨[page], rfl, .cons shows .nil⟩
    | some k =>
      rw [hn, Option.map_some] at next
      rw [portions_of_next_eq_some hn]
      simp only [next] at short ⊢
      obtain ⟨r, mem, rfl⟩ := exists_mem_of_next hn
      have knownKey := keys rows List.mem_cons_self r mem
      obtain ⟨pages, answers, shown⟩ := ih
        (step _ knownKey (short page List.mem_cons_self _ knownKey next))
        (fun l hl => keys l (List.mem_cons_of_mem _ hl))
        (fun p hp => short p (List.mem_cons_of_mem _ hp))
      exact ⟨page :: pages, by rw [answers]; rfl, .cons shows shown⟩

variable (view entry total cursor) in
/-- The same of a walk through a store: the first request must show the first portion, and each
later one the portion of the store that it meets. -/
theorem walk_shows {o : KeyOrder κ} {key : ρ → κ} {size : Nat} (known : κ → Prop)
    {retrieve : Queries → Int32 → Option String → Except RetrievalError π} {m : MemoryStore}
    {pageSize : Int32} {visits : List Visit} (listing : MemoryStore → List ρ)
    (first : ∃ page, retrieve m.queries pageSize none = .ok page ∧
      Shows view entry total cursor page (portion o key size .start (listing m)))
    (later : ∀ s ∈ m.met visits, ∀ requested k, known k →
      (cursor k).utf8ByteSize ≤ maxCursorLength →
      ∃ page, retrieve s.queries requested (some (cursor k)) = .ok page ∧
        Shows view entry total cursor page (portion o key size (.after k) (listing s)))
    (keys : ∀ s ∈ m :: m.met visits, ∀ r ∈ listing s, known (key r))
    (short : ∀ page, .ok page ∈ m.walk retrieve view.next pageSize visits →
      ∀ k, known k → view.next page = some (cursor k) →
        (cursor k).utf8ByteSize ≤ maxCursorLength) :
    ∃ pages, m.walk retrieve view.next pageSize visits = pages.map .ok ∧
      List.Forall₂ (Shows view entry total cursor) pages
        (portions o key size .start ((m :: m.met visits).map listing)) := by
  refine follow_shows view entry total cursor known first (MemoryStore.forall₂_laterRequests later)
    (fun l hl r hr => ?_) short
  rw [← List.map_cons] at hl
  obtain ⟨s, hs, rfl⟩ := List.mem_map.1 hl
  exact keys s hs r hr

end Shows

end HydroArchive
