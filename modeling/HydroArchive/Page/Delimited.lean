import HydroArchive.Base64
import HydroArchive.Page.Token
import HydroArchive.Text.Ascii
import HydroArchive.Text.Number
import HydroArchive.Text.Split
import HydroArchive.Text.Utf8

/-!
# Delimited cursors

The older written form of a cursor: parts with a delimiter between them, in padded base 64.  The
first part is the resume key.  In a catalog cursor the total and the page size may follow; in a
values cursor the last part is the page size, and a total may stand before it.

Reading also accepts the unpadded URL-safe alphabet, since some callers rewrote their cursors.

## Main definitions

* `encodeParts`, `decodeParts` — a list of parts as a cursor and back.
* `PageToken.ofParts` — the token that the parts spell.
-/

namespace HydroArchive

def encodeParts (parts : List String) (delimiter : String) : String :=
  String.ofList (Base64.encode Base64.standard (Text.bytes (Text.join delimiter parts)))

/-- The bytes of a cursor in either alphabet. -/
def cursorBytes? (cursor : String) : Option (List UInt8) :=
  (Base64.decode? Base64.standard cursor.toList).or (Base64.decode? Base64.urlSafe cursor.toList)

/-- The parts that a cursor holds. -/
def decodeParts (cursor delimiter : String) : Except CursorError (List String) := do
  let cursor ← checkedCursor cursor
  match cursorBytes? cursor with
  | none => .error .invalidEncoding
  | some bytes =>
    match Text.ofBytes? bytes with
    | none => .error .invalidText
    | some text => .ok (Text.split delimiter text)

/-- The total of a delimited cursor; an empty part and `null` both stand for an unknown total. -/
def readTotal (part : String) : Except CursorError (Option UInt64) :=
  let part := Text.trim part
  if part = "" ∨ Text.sameFold part "null" then .ok none
  else match Text.natural64? part with
    | some n => .ok (some (UInt64.ofNat n))
    | none => .error (.invalidNumber .total part)

/-- The page size of a delimited cursor. -/
def readPageSize (part : String) : Except CursorError Int32 :=
  let part := Text.trim part
  match Text.integer32? part with
  | some n => .ok (Int32.ofInt n)
  | none => .error (.invalidNumber .pageSize part)

/-- The total and the page size in the parts after the resume key. -/
def readCounts (kind : PageKind) (parts : List String) :
    Except CursorError (Option UInt64 × Int32) :=
  match kind, parts with
  | _, [] => .ok (none, 0)
  | .catalog, [total] => do return (← readTotal total, 0)
  | .catalog, total :: size :: _ => do return (← readTotal total, ← readPageSize size)
  | .values, [size] => do return (none, ← readPageSize size)
  | .values, total :: part :: parts => do
    return (← readTotal total, ← readPageSize ((part :: parts).getLast (by simp)))

/-- The token that the parts of a delimited cursor spell. -/
def PageToken.ofParts (kind : PageKind) (parts : List String) : Except CursorError PageToken := do
  let (total, pageSize) ← readCounts kind parts.tail
  return ⟨kind, parts.headD "", total, pageSize⟩

end HydroArchive
