import HydroArchive.Proofs.Page.Key
import HydroArchive.Proofs.Retrieval.Follow

/-!
# Walks through a catalog

Both catalogs are handed out in the same way, from a count and from the rows that a query admits.
As long as these describe one listing, the first page shows its first portion, and the page of a
cursor shows the portion after the key in the cursor.  So a walk shows the portions of the listing.

## Main definitions

* `Serves` — a count and an answer to queries describe one listing.
* `catalogCursor` — the cursor of the page after a key.
* `MemoryStore.catalogWalk` — the answers of a walk.

## Main statements

* `retrieveCatalog_eq` — the page of a plan.
* `retrieveCatalog_first`, `retrieveCatalog_later` — what one page of a walk shows.
* `retrieveCatalog_whole` — the page that holds all entries.
* `catalogWalk_shows` — what the pages of a walk show.
-/

namespace HydroArchive

variable {ρ ε : Type}

/-- A count and an answer to queries describe one listing for each office: the count is its length,
and a query admits the rows of it that are still to come, up to the limit. -/
structure Serves (count : Option String → Except StoreError Nat)
    (rows : CatalogQuery → Except StoreError (List ρ)) (key : ρ → CatalogKey)
    (listing : Option String → List ρ) : Prop where
  count : ∀ office, count office = .ok (listing office).length
  rows : ∀ q, rows q
    = .ok (takeLimit q.limit (q.after.rest CatalogKey.order key (listing q.office)))

/-- The cursor of the page after a key. -/
def catalogCursor (total : Option UInt64) (pageSize : Int32) (k : CatalogKey) : String :=
  PageToken.encode ⟨.catalog, k.resumeKey, total, pageSize⟩

theorem catalogCursor_short {k : CatalogKey} (h : k.resumeKey.utf8ByteSize ≤ 1000)
    (total : Option UInt64) (pageSize : Int32) :
    (catalogCursor total pageSize k).utf8ByteSize ≤ maxCursorLength := by
  have bound := PageToken.utf8ByteSize_encode_le ⟨.catalog, k.resumeKey, total, pageSize⟩
  rw [catalogCursor, maxCursorLength]
  simp only at bound
  omega

/-- What a caller reads off a page of a catalog. -/
def CatalogPage.view (ε : Type) : PageView (CatalogPage ε) ε where
  next := CatalogPage.next
  total := CatalogPage.total
  entries := CatalogPage.entries

/-! ## Plans -/

theorem planCatalog_of_accepted {request : CatalogRequest} {token : Option PageToken}
    {place : Resume CatalogKey} (accepted : requestedToken request.cursor .catalog = .ok token)
    (placed : resumeEntry token = .ok place) :
    planCatalog request = .ok {
      query := ⟨Text.nonBlank? request.office, place,
        rowLimit (effectivePageSize token request.pageSize)⟩
      isFirstPage := place.isStart
      knownTotal := token.bind PageToken.total
      pageSize := effectivePageSize token request.pageSize } := by
  rw [planCatalog, accepted]
  simp only [bind, Except.bind, CatalogQuery.plan, placed]
  rfl

theorem planCatalog_first {request : CatalogRequest} (h : request.cursor = none) :
    planCatalog request = .ok {
      query := ⟨Text.nonBlank? request.office, .start, rowLimit request.pageSize⟩
      isFirstPage := true
      knownTotal := none
      pageSize := request.pageSize } := by
  have token : requestedToken request.cursor .catalog = .ok none := by
    rw [h]
    rfl
  exact planCatalog_of_accepted token rfl

theorem planCatalog_later {request : CatalogRequest} {total : Option UInt64} {size : Int32}
    {k : CatalogKey} (pos : 0 < size) (resumable : k.Resumable)
    (short : (catalogCursor total size k).utf8ByteSize ≤ maxCursorLength)
    (h : request.cursor = some (catalogCursor total size k)) :
    planCatalog request = .ok {
      query := ⟨Text.nonBlank? request.office, .after k, rowLimit size⟩
      isFirstPage := false
      knownTotal := total
      pageSize := size } := by
  have token : requestedToken request.cursor .catalog
      = .ok (some ⟨.catalog, k.resumeKey, total, size⟩) := h ▸ requestedToken_encode short
  have fixed : effectivePageSize (some ⟨.catalog, k.resumeKey, total, size⟩) request.pageSize
      = size := effectivePageSize_of_pos pos _
  have planned := planCatalog_of_accepted token (CatalogKey.resumeEntry_resumeKey resumable _ _ _)
  rw [fixed] at planned
  exact planned

/-! ## Pages -/

section Pages

variable {count : Option String → Except StoreError Nat}
  {rows : CatalogQuery → Except StoreError (List ρ)} {key : ρ → CatalogKey}
  {listing : Option String → List ρ} (serves : Serves count rows key listing) (entry : ρ → ε)

include serves

/-- The total is counted for the first page, and known from the plan for a later one. -/
theorem listingTotal_eq (plan : PagePlan CatalogQuery) :
    listingTotal plan (count plan.query.office)
      = .ok (if plan.isFirstPage then some (UInt64.ofNat (listing plan.query.office).length)
        else plan.knownTotal) := by
  rw [listingTotal, serves.count]
  split <;> rfl

/-- The page of a plan holds the rows that are still to come, up to its size.  The cursor of the
next page is there if some rows are left over, and carries the key of the last row. -/
theorem retrieveCatalog_eq {request : CatalogRequest} {plan : PagePlan CatalogQuery}
    {total : Option UInt64} (planned : planCatalog request = .ok plan)
    (known : listingTotal plan (count plan.query.office) = .ok total)
    (limit : plan.query.limit = rowLimit plan.pageSize) :
    let waiting := plan.query.after.rest CatalogKey.order key (listing plan.query.office)
    let kept := if 0 < plan.pageSize then waiting.take plan.pageSize.toInt.toNat else waiting
    let more := 0 < plan.pageSize ∧ plan.pageSize.toInt.toNat < waiting.length
    retrieveCatalog count rows key entry request = .ok {
      cursor := Text.nonBlank? request.cursor
      next := if more then
          kept.getLast?.map fun r => catalogCursor total plan.pageSize (key r)
        else none
      total := total
      pageSize := plan.pageSize
      entries := kept.map entry } := by
  intro waiting kept more
  have split : splitPage (takeLimit (rowLimit plan.pageSize) waiting) plan.pageSize
      = (kept, decide more) := by
    by_cases pos : 0 < plan.pageSize
    · simp only [splitPage_takeLimit pos, kept, more, if_pos pos, pos, true_and]
    · simp only [splitPage_takeLimit_whole pos, kept, more, if_neg pos, pos, false_and,
        decide_false]
  have answer : rows plan.query = .ok (takeLimit (rowLimit plan.pageSize) waiting) := by
    rw [serves.rows, limit]
  simp only [retrieveCatalog, planned, known, answer, split, bind, Except.bind, Except.mapError,
    nextToken, decide_eq_true_eq]
  split
  case isTrue => cases kept.getLast? <;> rfl
  case isFalse => rfl

/-- The page of a plan shows the portion where the query starts. -/
theorem retrieveCatalog_of_plan {request : CatalogRequest} {plan : PagePlan CatalogQuery}
    {total : Option UInt64} (planned : planCatalog request = .ok plan)
    (known : listingTotal plan (count plan.query.office) = .ok total)
    (limit : plan.query.limit = rowLimit plan.pageSize) (pos : 0 < plan.pageSize) :
    ∃ page, retrieveCatalog count rows key entry request = .ok page ∧
      Shows (CatalogPage.view ε) entry total (catalogCursor total plan.pageSize) page
        (portion CatalogKey.order key plan.pageSize.toInt.toNat plan.query.after
          (listing plan.query.office)) := by
  refine ⟨_, retrieveCatalog_eq serves entry planned known limit, ?_, ?_, rfl⟩
  · simp only [CatalogPage.view, portion, if_pos pos]
  · simp only [CatalogPage.view, portion, pos, true_and]
    split
    case isTrue => rw [Option.map_map]; rfl
    case isFalse => rfl

/-- The first page shows the first portion and counts the listing. -/
theorem retrieveCatalog_first (request : CatalogRequest) (pos : 0 < request.pageSize)
    (h : request.cursor = none) :
    let all := listing (Text.nonBlank? request.office)
    let total := some (UInt64.ofNat all.length)
    ∃ page, retrieveCatalog count rows key entry request = .ok page ∧
      Shows (CatalogPage.view ε) entry total (catalogCursor total request.pageSize) page
        (portion CatalogKey.order key request.pageSize.toInt.toNat .start all) := by
  have planned := planCatalog_first h
  have page := retrieveCatalog_of_plan serves entry planned (listingTotal_eq serves _) rfl pos
  exact page

/-- A later page shows the portion after the key in its cursor, with the total and the page size of
the cursor. -/
theorem retrieveCatalog_later (request : CatalogRequest) {total : Option UInt64} {size : Int32}
    {k : CatalogKey} (pos : 0 < size) (resumable : k.Resumable)
    (short : (catalogCursor total size k).utf8ByteSize ≤ maxCursorLength)
    (h : request.cursor = some (catalogCursor total size k)) :
    ∃ page, retrieveCatalog count rows key entry request = .ok page ∧
      Shows (CatalogPage.view ε) entry total (catalogCursor total size) page
        (portion CatalogKey.order key size.toInt.toNat (.after k)
          (listing (Text.nonBlank? request.office))) := by
  have planned := planCatalog_later pos resumable short h
  have page := retrieveCatalog_of_plan serves entry planned rfl rfl pos
  exact page

/-- Without a positive page size there is one page, with all entries. -/
theorem retrieveCatalog_whole (request : CatalogRequest) (unbounded : ¬ 0 < request.pageSize)
    (h : request.cursor = none) :
    ∃ page, retrieveCatalog count rows key entry request = .ok page ∧ page.next = none ∧
      page.entries = (listing (Text.nonBlank? request.office)).map entry ∧
      page.total = some (UInt64.ofNat (listing (Text.nonBlank? request.office)).length) := by
  have page := retrieveCatalog_eq serves entry (planCatalog_first h) (listingTotal_eq serves _) rfl
  simp only [unbounded, false_and, if_false, Resume.rest_start] at page
  exact ⟨_, page, rfl, rfl, rfl⟩

end Pages

/-! ## Walks -/

namespace MemoryStore

/-- The answers of a walk through a catalog of a store.  The first request names the page size of
`request`, and each later one that of its visit. -/
def catalogWalk (count : Queries → Option String → Except StoreError Nat)
    (rows : Queries → CatalogQuery → Except StoreError (List ρ)) (key : ρ → CatalogKey)
    (entry : ρ → ε) (m : MemoryStore) (request : CatalogRequest) (visits : List Visit) :
    List (Except RetrievalError (CatalogPage ε)) :=
  m.walk (fun store pageSize cursor => retrieveCatalog (count store) (rows store) key entry
      { request with cursor := cursor, pageSize := pageSize })
    CatalogPage.next request.pageSize visits

variable {count : Queries → Option String → Except StoreError Nat}
  {rows : Queries → CatalogQuery → Except StoreError (List ρ)} {key : ρ → CatalogKey}
  {entry : ρ → ε} {m : MemoryStore} {request : CatalogRequest} {visits : List Visit}
  {listing : MemoryStore → Option String → List ρ}

variable (entry) in
/-- Each answer of a walk shows its portion of the listing, if the cursors on the pages are not too
long. -/
theorem catalogWalk_shows
    (serves : ∀ s ∈ m :: m.met visits,
      Serves (count s.queries) (rows s.queries) key (listing s))
    (pos : 0 < request.pageSize)
    (resumable : ∀ s ∈ m :: m.met visits, ∀ r ∈ listing s (Text.nonBlank? request.office),
      (key r).Resumable)
    {total : Option UInt64}
    (counted : total = some (UInt64.ofNat (listing m (Text.nonBlank? request.office)).length))
    (short : ∀ page, .ok page ∈ catalogWalk count rows key entry m request visits →
      ∀ s ∈ m :: m.met visits, ∀ r ∈ listing s (Text.nonBlank? request.office),
        page.next = some (catalogCursor total request.pageSize (key r)) →
          (catalogCursor total request.pageSize (key r)).utf8ByteSize ≤ maxCursorLength) :
    ∃ pages, catalogWalk count rows key entry m request visits = pages.map .ok ∧
      List.Forall₂ (Shows (CatalogPage.view ε) entry total
          (catalogCursor total request.pageSize)) pages
        (portions CatalogKey.order key request.pageSize.toInt.toNat .start
          ((m :: m.met visits).map fun s => listing s (Text.nonBlank? request.office))) := by
  refine walk_shows (CatalogPage.view ε) entry total (catalogCursor total request.pageSize)
    (fun k => ∃ s ∈ m :: m.met visits, ∃ r ∈ listing s (Text.nonBlank? request.office), key r = k)
    (fun s => listing s (Text.nonBlank? request.office))
    (counted ▸ retrieveCatalog_first (serves m List.mem_cons_self) entry
      { request with cursor := none } pos rfl)
    (fun s hs requested k known fits => ?_) (fun s hs r hr => ⟨s, hs, r, hr, rfl⟩)
    (fun page answer k known next => ?_)
  · obtain ⟨t, ht, r, hr, rfl⟩ := known
    exact retrieveCatalog_later (serves s (List.mem_cons_of_mem m hs)) entry _ pos
      (resumable t ht r hr) fits rfl
  · obtain ⟨s, hs, r, hr, rfl⟩ := known
    exact short page answer s hs r hr next

/-- No cursor of a walk is too long if the offices and identifiers are not. -/
theorem catalogWalk_short
    (serves : ∀ s ∈ m :: m.met visits,
      Serves (count s.queries) (rows s.queries) key (listing s))
    (pos : 0 < request.pageSize)
    (resumable : ∀ s ∈ m :: m.met visits, ∀ r ∈ listing s (Text.nonBlank? request.office),
      (key r).Resumable)
    (small : ∀ s ∈ m :: m.met visits, ∀ r ∈ listing s (Text.nonBlank? request.office),
      (key r).resumeKey.utf8ByteSize ≤ 1000) :
    ∀ page, .ok page ∈ catalogWalk count rows key entry m request visits →
      ∀ c, page.next = some c → c.utf8ByteSize ≤ maxCursorLength := by
  obtain ⟨pages, answers, shown⟩ := catalogWalk_shows entry serves pos resumable rfl
    fun _ _ s hs r hr _ => catalogCursor_short (small s hs r hr) _ _
  intro page answer c next
  rw [answers] at answer
  obtain ⟨page', hp, he⟩ := List.mem_map.1 answer
  obtain rfl := Except.ok.inj he
  obtain ⟨rows, hrows, r, hr, rfl⟩ := exists_key_of_shows shown hp next
  obtain ⟨s, hs, rfl⟩ := List.mem_map.1 hrows
  exact catalogCursor_short (small s hs r hr) _ _

end MemoryStore

end HydroArchive
