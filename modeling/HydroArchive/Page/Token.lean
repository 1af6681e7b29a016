import HydroArchive.Text.Blank

/-!
# Page tokens

A listing is handed out page by page.  The token of a page says where the page before it ended, how
many rows the whole listing was counted to have, and how many rows a page holds.  Callers carry it
back as an opaque text, the cursor.

This module holds the token itself and the ways in which a cursor can be refused.  The two written
forms are in `HydroArchive.Page.Record` and `HydroArchive.Page.Delimited`, and reading a cursor of
either form is in `HydroArchive.Page.Cursor`.
-/

namespace HydroArchive

/-- What the rows of a listing are. -/
inductive PageKind where
  /-- Readings of one time series. -/
  | values
  /-- Entries of a catalog. -/
  | catalog
  deriving DecidableEq, Repr

namespace PageKind

/-- The name of a kind in cursors and messages. -/
def name : PageKind → String
  | values => "values"
  | catalog => "catalog"

def delimiter : PageKind → String
  | values => "|"
  | catalog => "|||"

def ofName? : String → Option PageKind
  | "values" => some values
  | "catalog" => some catalog
  | _ => none

@[simp] theorem ofName?_name (k : PageKind) : ofName? k.name = some k := by
  cases k <;> rfl

end PageKind

/-- Where a page starts and what is known about the listing. -/
structure PageToken where
  kind : PageKind
  /-- The key of the last row that was handed out; empty for a first page. -/
  resumeKey : String
  /-- The number of rows that the first page counted. -/
  total : Option UInt64
  /-- Rows on a page.  Zero or less leaves the size to the request. -/
  pageSize : Int32
  deriving DecidableEq

/-- Whether the token fixes the page size. -/
def PageToken.hasPageSize (t : PageToken) : Bool := 0 < t.pageSize

/-- A numeric part of a delimited cursor. -/
inductive CursorField where
  | total
  | pageSize
  deriving DecidableEq, Repr

def CursorField.name : CursorField → String
  | .total => "total"
  | .pageSize => "page size"

/-- The ways in which a cursor can be refused. -/
inductive CursorError where
  | empty
  | tooLong (length max : Nat)
  | invalidEncoding
  | invalidText
  | unsupportedVersion (version : Nat)
  | wrongKind (expected found : PageKind)
  | invalidNumber (field : CursorField) (value : String)
  | invalidResumeKey (key : String)
  deriving DecidableEq, Repr

def CursorError.message : CursorError → String
  | .empty => "cursor is empty"
  | .tooLong length max => s!"cursor exceeds max length: {length} chars (max {max})"
  | .invalidEncoding => "cursor is not valid base64"
  | .invalidText => "cursor is not valid UTF-8"
  | .unsupportedVersion version => s!"unsupported cursor version {version}"
  | .wrongKind expected found =>
    s!"cursor belongs to {found.name} pages, not {expected.name} pages"
  | .invalidNumber field value => s!"cursor field '{field.name}' is not a number: '{value}'"
  | .invalidResumeKey key => s!"cursor resume key '{key}' is malformed"

/-- A cursor may have at most this many bytes. -/
def maxCursorLength : Nat := 8 * 1024

/-- The trimmed text of a cursor, which must be neither empty nor too long. -/
def checkedCursor (cursor : String) : Except CursorError String :=
  let cursor := Text.trim cursor
  if cursor = "" then .error .empty
  else if cursor.utf8ByteSize > maxCursorLength then
    .error (.tooLong cursor.utf8ByteSize maxCursorLength)
  else .ok cursor

end HydroArchive
