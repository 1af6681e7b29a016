import HydroArchive.Page.Delimited
import HydroArchive.Page.Record

/-!
# Cursors

The text that a caller carries from one page to the next.  Writing always gives the structured form.
Reading tries the structured form first; a cursor that does not hold a record is read as a delimited
one, so that cursors which were handed out in the older form still work.
-/

namespace HydroArchive

/-- The version of the records that are written, and the only one that is read. -/
def recordVersion : UInt32 := 1

def PageToken.record (t : PageToken) : PageRecord :=
  ⟨recordVersion, t.kind, t.resumeKey, t.total, t.pageSize⟩

def PageToken.encode (t : PageToken) : String :=
  String.ofList (Base64.encode Base64.urlSafe t.record.bytes)

/-- The record that a cursor holds, if it is of the structured form. -/
def cursorRecord? (cursor : String) : Option PageRecord :=
  (Base64.decode? Base64.urlSafe cursor.toList).bind PageRecord.ofBytes?

/-- The token of a record that was found in a cursor for pages of a kind. -/
def PageToken.ofRecord (kind : PageKind) (r : PageRecord) : Except CursorError PageToken :=
  if r.version ≠ recordVersion then .error (.unsupportedVersion r.version.toNat)
  else if r.kind ≠ kind then .error (.wrongKind kind r.kind)
  else .ok ⟨kind, r.key, r.total, r.size⟩

/-- The token that a cursor for pages of a kind holds. -/
def PageToken.decode (cursor : String) (kind : PageKind) : Except CursorError PageToken := do
  let cursor ← checkedCursor cursor
  match cursorRecord? cursor with
  | some r => PageToken.ofRecord kind r
  | none => PageToken.ofParts kind (← decodeParts cursor kind.delimiter)

end HydroArchive
