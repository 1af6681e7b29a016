import HydroArchive.Page.Key
import HydroArchive.Text.Ascii
import HydroArchive.Text.Number
import HydroArchive.Time.Window

/-!
# Page queries

A page is fetched with a bounded query: the rows strictly after the last row that was handed out, in
the order of the listing, and one row more than the page holds.  The row too many is never handed
out; it only shows that there is another page.

## Main definitions

* `Resume` — where a page starts.
* `ValuesQuery`, `CatalogQuery` — the queries, and the rows that they admit.
* `PagePlan` — a query and what is known about the listing; built by `ValuesQuery.plan` and
  `CatalogQuery.plan` from a token and a request.
* `rowLimit`, `splitPage`, `nextToken` — the row too many, and the token of the page after.
-/

namespace HydroArchive

/-- Where a page starts: before all rows, or strictly after the row with a key. -/
inductive Resume (α : Type) where
  | start
  | after (key : α)

namespace Resume

variable {α : Type}

def isStart : Resume α → Bool
  | start => true
  | after _ => false

/-- The key that a page starts after. -/
def key? : Resume α → Option α
  | start => none
  | after key => some key

end Resume

/-- The number of rows to fetch for a page: one more than it holds, or any number when the page size
is zero or less. -/
def rowLimit (pageSize : Int32) : Option Nat :=
  if 0 < pageSize then some (pageSize.toInt.toNat + 1) else none

/-- At most so many rows. -/
def takeLimit {α : Type} (limit : Option Nat) (rows : List α) : List α :=
  match limit with
  | some n => rows.take n
  | none => rows

@[simp] theorem takeLimit_none {α : Type} (rows : List α) : takeLimit none rows = rows := rfl

@[simp] theorem takeLimit_some {α : Type} (n : Nat) (rows : List α) :
    takeLimit (some n) rows = rows.take n := rfl

@[simp] theorem takeLimit_nil {α : Type} (limit : Option Nat) :
    takeLimit limit ([] : List α) = [] := by
  cases limit <;> simp

theorem takeLimit_map {α β : Type} (f : α → β) (limit : Option Nat) (xs : List α) :
    takeLimit limit (xs.map f) = (takeLimit limit xs).map f := by
  cases limit <;> simp

theorem takeLimit_sublist {α : Type} (limit : Option Nat) (xs : List α) :
    (takeLimit limit xs).Sublist xs := by
  cases limit with
  | none => exact .refl xs
  | some n => exact List.take_sublist n xs

/-- The rows that the page keeps, and whether there are more. -/
def splitPage {α : Type} (rows : List α) (pageSize : Int32) : List α × Bool :=
  if 0 < pageSize ∧ pageSize.toInt.toNat < rows.length then
    (rows.take pageSize.toInt.toNat, true)
  else (rows, false)

/-- A query for the readings of one series. -/
structure ValuesQuery where
  after : Resume Instant
  beginTime : Instant
  endTime : Instant
  limit : Option Nat

/-- The readings that a query admits: those of the window on a first page, and those after the
resume key up to the end of the window on a later one. -/
def ValuesQuery.admits (q : ValuesQuery) (t : Instant) : Bool :=
  (match q.after with
  | .start => decide (q.beginTime ≤ t)
  | .after key => decide (key < t)) && decide (t ≤ q.endTime)

/-- A query for the entries of a catalog, of one office or of all. -/
structure CatalogQuery where
  office : Option String
  after : Resume CatalogKey
  limit : Option Nat

/-- Whether an office passes a filter; without a filter every office does. -/
def officePasses (filter : Option String) (office : String) : Bool :=
  match filter with
  | some wanted => Text.sameFold wanted office
  | none => true

@[simp] theorem officePasses_none (office : String) : officePasses none office = true := rfl

namespace CatalogQuery

/-- Whether an entry of an office is asked for. -/
def matchesOffice (q : CatalogQuery) (office : String) : Bool := officePasses q.office office

def admits (q : CatalogQuery) (key : CatalogKey) : Bool :=
  q.matchesOffice key.office &&
    match q.after with
    | .start => true
    | .after resume => key.isAfter resume

end CatalogQuery

/-- A query and what is known about the listing around it. -/
structure PagePlan (α : Type) where
  query : α
  isFirstPage : Bool
  /-- The total of the token; it is not counted again on later pages. -/
  knownTotal : Option UInt64
  pageSize : Int32

/-- The page size of a token where it has one, else the one that is asked for. -/
def effectivePageSize (token : Option PageToken) (requested : Int32) : Int32 :=
  match token with
  | some t => if t.hasPageSize then t.pageSize else requested
  | none => requested

/-- The resume key of a reading: its milliseconds since 1970. -/
def instantKey (t : Instant) : String := String.ofList (Text.integerText t.millis)

/-- The instant of a resume key. -/
def ofInstantKey (key : String) : Except CursorError Instant :=
  match (Text.integer64? (Text.trim key)).bind Instant.ofMillis? with
  | some t => .ok t
  | none => .error (.invalidResumeKey key)

/-- Where the page of a token starts in a series. -/
def resumeInstant (token : Option PageToken) : Except CursorError (Resume Instant) :=
  match token with
  | none => .ok .start
  | some t => if t.resumeKey = "" then .ok .start else (ofInstantKey t.resumeKey).map .after

/-- The resume key that stands for the start of a catalog, besides the empty one. -/
def startMark : String := "*"

/-- Where the page of a token starts in a catalog. -/
def resumeEntry (token : Option PageToken) : Except CursorError (Resume CatalogKey) :=
  match token with
  | none => .ok .start
  | some t =>
    if t.resumeKey = "" ∨ t.resumeKey = startMark then .ok .start
    else (CatalogKey.ofResumeKey t.resumeKey).map .after

def ValuesQuery.plan (token : Option PageToken) (window : TimeWindow) (requested : Int32) :
    Except CursorError (PagePlan ValuesQuery) := do
  let pageSize := effectivePageSize token requested
  let after ← resumeInstant token
  return {
    query := ⟨after, window.beginTime.instant, window.endTime.instant, rowLimit pageSize⟩
    isFirstPage := after.isStart
    knownTotal := token.bind PageToken.total
    pageSize := pageSize }

def CatalogQuery.plan (token : Option PageToken) (office : Option String) (requested : Int32) :
    Except CursorError (PagePlan CatalogQuery) := do
  let pageSize := effectivePageSize token requested
  let after ← resumeEntry token
  return {
    query := ⟨office, after, rowLimit pageSize⟩
    isFirstPage := after.isStart
    knownTotal := token.bind PageToken.total
    pageSize := pageSize }

/-- The token of the page after a page whose last row has a key, where there are more rows. -/
def nextToken (kind : PageKind) (lastKey : Option String) (hasMore : Bool) (pageSize : Int32)
    (total : Option UInt64) : Option PageToken :=
  if hasMore then lastKey.map fun key => ⟨kind, key, total, pageSize⟩ else none

end HydroArchive
