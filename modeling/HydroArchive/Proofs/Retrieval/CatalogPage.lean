import HydroArchive.Proofs.Retrieval.SeriesWalk

/-!
# One page of the series catalog

A caller may come with any cursor: one that came with a page, one of the older form, or one made up.
As long as it can be read and its key is that of an entry, of any entry, the page is determined by
the token in it.

## Main definitions

* `StartsAt` — the place where the page of a token starts.

## Main statements

* `seriesCatalog_page` — the page of the series catalog for any accepted cursor.
-/

namespace HydroArchive

/-- The place where a page of a catalog starts: at the start without a token or when its key says
so, else behind the entry that its key names. -/
inductive StartsAt : Option PageToken → Resume CatalogKey → Prop where
  | first : StartsAt none .start
  | marked {t : PageToken} (h : t.resumeKey = "" ∨ t.resumeKey = startMark) :
      StartsAt (some t) .start
  | later {t : PageToken} {k : CatalogKey} (h : CatalogKey.ofResumeKey t.resumeKey = .ok k) :
      StartsAt (some t) (.after k)

variable {token : Option PageToken}

theorem StartsAt.resumeEntry {place : Resume CatalogKey} (h : StartsAt token place) :
    resumeEntry token = .ok place := by
  cases h with
  | first => rfl
  | marked h => rw [HydroArchive.resumeEntry, if_pos h]
  | @later t k h =>
    have named : ¬ (t.resumeKey = "" ∨ t.resumeKey = startMark) := by
      rintro (mark | mark) <;> rw [mark] at h <;> cases h
    simp only [HydroArchive.resumeEntry, if_neg named, h]
    rfl

/-- A token with a positive page size fixes it. -/
theorem effectivePageSize_eq (token : Option PageToken) (requested : Int32) :
    effectivePageSize token requested
      = ((token.map PageToken.pageSize).filter (0 < ·)).getD requested := by
  cases token with
  | none => rfl
  | some t =>
    by_cases pos : 0 < t.pageSize <;>
      simp [effectivePageSize, PageToken.hasPageSize, Option.filter, pos]

namespace MemoryStore

variable {m : MemoryStore} {request : CatalogRequest} {place : Resume CatalogKey}

/-- The entries of the listing that are still to come at a place are those of the store, in catalog
order. -/
theorem listed_rest (m : MemoryStore) (office : Option String) (place : Resume CatalogKey) :
    CatalogKey.Listed SeriesEntry.key
      ((m.seriesEntries office).filter fun e => place.admits CatalogKey.order e.key)
      (place.rest CatalogKey.order SeriesEntry.key (m.seriesListing office)) :=
  CatalogKey.listed_of_sortedBy ((Text.sortedBy_sortByColumns _ _).filter _)

/-- The page of the series catalog, where the size, the total and the rows to come are known. -/
theorem retrieveSeriesCatalog_eq (healthy : m.healthy = true)
    (accepted : requestedToken request.cursor .catalog = .ok token)
    (starts : StartsAt token place) {size : Int32}
    (sized : effectivePageSize token request.pageSize = size) {total : Option UInt64}
    (counted : total = if place.isStart then
        some (UInt64.ofNat (m.seriesEntries (Text.nonBlank? request.office)).length)
      else token.bind PageToken.total)
    {rows : List SeriesEntry} (waiting : place.rest CatalogKey.order SeriesEntry.key
      (m.seriesListing (Text.nonBlank? request.office)) = rows) :
    let kept := if 0 < size then rows.take size.toInt.toNat else rows
    retrieveSeriesCatalog m.queries request = .ok {
      cursor := Text.nonBlank? request.cursor
      next := if 0 < size ∧ size.toInt.toNat < rows.length then
          kept.getLast?.map fun e => catalogCursor total size e.key
        else none
      total := total
      pageSize := size
      entries := kept } := by
  intro kept
  subst sized counted waiting
  have planned := planCatalog_of_accepted accepted starts.resumeEntry
  have page := retrieveCatalog_eq (serves_series healthy) id planned
    (listingTotal_eq (serves_series healthy) _) rfl
  simp only [List.map_id, length_seriesListing] at page
  exact page

/-- With a positive size and rows left over, a page has a last row. -/
theorem isSome_nextCursor {ρ : Type} (size : Int32) (rows : List ρ) (cursor : ρ → String) :
    (if 0 < size ∧ size.toInt.toNat < rows.length then
        (if 0 < size then rows.take size.toInt.toNat else rows).getLast?.map cursor
      else none).isSome ↔ 0 < size ∧ size.toInt.toNat < rows.length := by
  split
  case isTrue more =>
    have some : 0 < size.toInt.toNat := toNat_pos more.1
    have filled : rows.take size.toInt.toNat ≠ [] := by
      rw [← List.length_pos_iff, List.length_take]
      omega
    rw [if_pos more.1, Option.isSome_map, List.getLast?_isSome]
    exact iff_of_true filled more
  case isFalse none => exact iff_of_false Bool.false_ne_true none

/-- The page of the series catalog for any accepted cursor.  Its size is that of the token, if it
has a positive one, and that of the request otherwise.  It holds the entries of the office that stand
behind the key of the token, in catalog order, as many as the size allows.  There is a next page if
entries are left over, and its cursor carries the last entry, the size and the total.  The total is
counted at the start of the catalog and known from the token elsewhere.  With a page size in the
token, that of the request does not matter. -/
theorem seriesCatalog_page (healthy : m.healthy = true)
    (accepted : requestedToken request.cursor .catalog = .ok token)
    (starts : StartsAt token place) :
    let office := Text.nonBlank? request.office
    let size := ((token.map PageToken.pageSize).filter (0 < ·)).getD request.pageSize
    let total := if place.isStart then some (UInt64.ofNat (m.seriesEntries office).length)
      else token.bind PageToken.total
    ∃ page rows, retrieveSeriesCatalog m.queries request = .ok page ∧
      CatalogKey.Listed SeriesEntry.key
        ((m.seriesEntries office).filter fun e => place.admits CatalogKey.order e.key) rows ∧
      page.cursor = Text.nonBlank? request.cursor ∧
      page.pageSize = size ∧
      page.total = total ∧
      page.entries = (if 0 < size then rows.take size.toInt.toNat else rows) ∧
      (page.next.isSome ↔ 0 < size ∧ size.toInt.toNat < rows.length) ∧
      (∀ cursor, page.next = some cursor → ∃ e, page.entries.getLast? = some e ∧
        cursor = PageToken.encode ⟨.catalog, e.key.resumeKey, total, size⟩) ∧
      ∀ t, token = some t → 0 < t.pageSize → ∀ other,
        retrieveSeriesCatalog m.queries { request with pageSize := other } = .ok page := by
  intro office size total
  have sized : effectivePageSize token request.pageSize = size := effectivePageSize_eq _ _
  clear_value size
  generalize rest : place.rest CatalogKey.order SeriesEntry.key (m.seriesListing office) = rows
  have page := retrieveSeriesCatalog_eq healthy accepted starts sized rfl rest
  refine ⟨_, rows, page, rest ▸ listed_rest m office place, rfl, rfl, rfl, rfl,
    isSome_nextCursor size rows _, ?_, ?_⟩
  · intro cursor next
    split at next
    case isTrue =>
      obtain ⟨e, last, rfl⟩ := Option.map_eq_some_iff.1 next
      exact ⟨e, last, rfl⟩
    case isFalse => cases next
  · intro t given pos other
    subst given
    have fixed : effectivePageSize (some t) other = size := by
      rw [← sized, effectivePageSize_of_pos pos, effectivePageSize_of_pos pos]
    -- the same page for the same place, size and total
    exact @retrieveSeriesCatalog_eq _ _ { request with pageSize := other } _ healthy accepted
      starts _ fixed _ rfl _ rest

/-- A store with one series twice, one of another office, and one that differs in case only. -/
def repeatedStore : MemoryStore where
  series := [⟨sampleSeries "KEYS", .empty⟩, ⟨⟨"LRL", "KEYS", "m", "m", "ft", 0⟩, .empty⟩,
    ⟨sampleSeries "keys", .empty⟩, ⟨sampleSeries "KEYS", .empty⟩]

/-- A made-up cursor of the older form, `LRL/KEYS|||9`: it names no entry of the office that is
asked for and has no page size. -/
def madeUpRequest : CatalogRequest := ⟨some "swt", some "TFJML0tFWVN8fHw5", 2, .si⟩

/-- Three entries stand behind the key, two of them with the same key; the total is that of the
cursor. -/
theorem seriesCatalog_page_sample :
    ∃ page rows, retrieveSeriesCatalog repeatedStore.queries madeUpRequest = .ok page ∧
      CatalogKey.Listed SeriesEntry.key
        (["KEYS", "keys", "KEYS"].map fun id => (sampleSeries id).entry) rows ∧
      page.pageSize = 2 ∧ page.total = some 9 ∧ page.entries = rows.take 2 := by
  have accepted : requestedToken madeUpRequest.cursor .catalog
      = .ok (some ⟨.catalog, "LRL/KEYS", some 9, 0⟩) := rfl
  have starts : StartsAt (some ⟨.catalog, "LRL/KEYS", some 9, 0⟩) (.after ⟨"LRL", "KEYS"⟩) :=
    .later rfl
  obtain ⟨page, rows, answer, listed, -, size, total, entries, -⟩ :=
    seriesCatalog_page (m := repeatedStore) rfl accepted starts
  exact ⟨page, rows, answer, listed, size, total, entries⟩

end MemoryStore

end HydroArchive
