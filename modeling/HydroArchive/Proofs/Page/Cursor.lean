import HydroArchive.Page.Cursor
import HydroArchive.Proofs.Base64
import HydroArchive.Proofs.Json.Object

/-!
# Cursors are read back

The cursor of a token is read back as that token, as long as it is not too long.  The record in it
survives as JSON, whatever the resume key holds, and its bytes survive as base 64.

## Main statements

* `PageRecord.ofBytes?_bytes` — the record from its bytes.
* `PageToken.decode_encode` — the token from its cursor.
* `PageToken.decode_encode_eq` — every cursor, for pages of either kind.
* `PageToken.utf8ByteSize_encode_le` — how long a cursor is at most.
-/

namespace HydroArchive

open Json (Field Value)

/-! ## Records -/

namespace PageRecord

def textField (name s : String) : Field := ⟨name, Json.quote s, _, Json.spells_quote s⟩

def integerField (name : String) (n : Int) : Field :=
  ⟨name, asciiBytes (Text.integerText n), _, Json.spells_integer n⟩

/-- The fields of a record after the version. -/
def laterFields (r : PageRecord) : List Field :=
  [textField "kind" r.kind.name, textField "key" r.key]
    ++ (r.total.map fun n => integerField "total" n.toNat).toList
    ++ [integerField "size" r.size.toInt]

theorem fields_eq (r : PageRecord) :
    r.fields = (integerField "v" r.version.toNat :: r.laterFields).map Field.bytes := by
  cases h : r.total <;>
    simp [fields, laterFields, h, field, textField, integerField, Field.bytes]

theorem ofBytes?_eq_object (r : PageRecord) :
    Value.ofBytes? r.bytes
      = some (.object ((integerField "v" r.version.toNat :: r.laterFields).map Field.raw)) := by
  rw [bytes, fields_eq]
  exact Json.ofBytes?_object _ _

@[simp] theorem namedFields?_raw (fs : List Field) :
    namedFields? (fs.map Field.raw) = some (fs.map fun f => (f.name, f.value)) := by
  induction fs with
  | nil => rfl
  | cons f fs ih =>
    simp only [namedFields?, List.map_cons, Field.raw] at ih ⊢
    simp [List.mapM_cons, ih]

theorem integer?_number {min max n : Int} (low : min ≤ n) (high : n ≤ max) :
    integer? min max (.number (some n)) = some n := if_pos ⟨low, high⟩

@[simp] theorem version?_number (v : UInt32) : version? (.number (some (v.toNat : Int))) = some v := by
  have := v.toNat_lt
  rw [version?, integer?_number (by omega) (by simp only [Text.maxNatural32]; omega)]
  simp

@[simp] theorem total?_number (n : UInt64) :
    total? (.number (some (n.toNat : Int))) = some (some n) := by
  have := n.toNat_lt
  rw [total?, integer?_number (by omega) (by simp only [Text.maxNatural64]; omega)]
  · simp
  · simp

@[simp] theorem size?_number (n : Int32) : size? (.number (some n.toInt)) = some n := by
  have low := n.le_toInt
  have high := n.toInt_lt
  rw [size?, integer?_number (by simp only [Text.minInteger32]; omega)
    (by simp only [Text.maxInteger32]; omega), Option.map_some, Int32.ofInt_toInt]

/-- Every record is read back from its bytes. -/
@[simp] theorem ofBytes?_bytes (r : PageRecord) : ofBytes? r.bytes = some r := by
  have kind : kind? (.quoted (Json.escape (Text.bytes r.kind.name))) = some r.kind := by
    simp [kind?]
  have key : text? (.quoted (Json.escape (Text.bytes r.key))) = some r.key :=
    Json.unquote?_escape r.key
  rw [ofBytes?, ofBytes?_eq_object, Option.bind_some, ofValue?, namedFields?_raw]
  obtain ⟨version, _, _, total, size⟩ := r
  cases total with
  | none =>
    have absent : total? .null = some none := rfl
    simp [laterFields, textField, integerField, required?, optional?, valuesOf, kind, key, absent]
  | some n =>
    simp [laterFields, textField, integerField, required?, optional?, valuesOf, kind, key]

end PageRecord

/-! ## Cursors -/

namespace PageToken

def cursorChars (t : PageToken) : List Char := Base64.encode Base64.urlSafe t.record.bytes

theorem encode_eq (t : PageToken) : t.encode = String.ofList t.cursorChars := rfl

theorem cursorChars_ne_nil (t : PageToken) : t.cursorChars ≠ [] :=
  Base64.encode_ne_nil (List.cons_ne_nil _ _)

theorem printable_of_mem_cursorChars {t : PageToken} {c : Char} (h : c ∈ t.cursorChars) :
    0x20 < c.toNat ∧ c.toNat < 0x7F := Base64.printable_of_mem_encode Base64.urlSafe_lawful h

theorem isBlank_of_mem_cursorChars {t : PageToken} {c : Char} (h : c ∈ t.cursorChars) :
    Text.isBlank c = false := by
  have := printable_of_mem_cursorChars h
  exact Text.isBlank_eq_false (by omega) (by omega)

/-- A cursor is never blank, so a request that carries it is not one for a first page. -/
@[simp] theorem nonBlank?_encode (t : PageToken) : Text.nonBlank? (some t.encode) = some t.encode :=
  Text.nonBlank?_ofList t.cursorChars_ne_nil fun _ => isBlank_of_mem_cursorChars

/-- A cursor that is neither blank nor too long is taken as it is trimmed. -/
theorem checkedCursor_of_le {cursor : String} (filled : Text.trim cursor ≠ "")
    (short : (Text.trim cursor).utf8ByteSize ≤ maxCursorLength) :
    checkedCursor cursor = .ok (Text.trim cursor) := by
  simp only [checkedCursor, if_neg filled]
  rw [if_neg (by omega)]

/-- A cursor that is too long is refused before it is looked at, for pages of any kind. -/
theorem decode_of_long {cursor : String}
    (long : maxCursorLength < (Text.trim cursor).utf8ByteSize) (kind : PageKind) :
    decode cursor kind = .error (.tooLong (Text.trim cursor).utf8ByteSize maxCursorLength) := by
  have filled : Text.trim cursor ≠ "" := by
    intro empty
    rw [empty] at long
    exact absurd long (by decide)
  have refused : checkedCursor cursor
      = .error (.tooLong (Text.trim cursor).utf8ByteSize maxCursorLength) := by
    simp only [checkedCursor, if_neg filled]
    rw [if_pos long]
  rw [decode, refused]
  rfl

@[simp] theorem trim_encode (t : PageToken) : Text.trim t.encode = t.encode :=
  Text.trim_ofList fun _ => isBlank_of_mem_cursorChars

theorem checkedCursor_encode {t : PageToken} (short : t.encode.utf8ByteSize ≤ maxCursorLength) :
    checkedCursor t.encode = .ok t.encode := by
  have filled : t.encode ≠ "" := by
    intro he
    exact t.cursorChars_ne_nil (by simpa [encode_eq] using congrArg String.toList he)
  have taken := checkedCursor_of_le (t.trim_encode.symm ▸ filled) (t.trim_encode.symm ▸ short)
  rwa [trim_encode] at taken

@[simp] theorem cursorRecord?_encode (t : PageToken) : cursorRecord? t.encode = some t.record := by
  rw [cursorRecord?, encode_eq, String.toList_ofList, cursorChars,
    Base64.decode?_encode Base64.urlSafe_lawful, Option.bind_some, PageRecord.ofBytes?_bytes]

/-- The token of a record with the current version is the one it was written for, for pages of its
own kind only. -/
@[simp] theorem ofRecord_record (t : PageToken) (kind : PageKind) :
    ofRecord kind t.record = if kind = t.kind then .ok t else .error (.wrongKind kind t.kind) := by
  rw [ofRecord, record, if_neg (by simp)]
  by_cases same : kind = t.kind
  · subst same
    simp
  · rw [if_pos (Ne.symm same), if_neg same]

theorem decode_encode_of_le {t : PageToken} (short : t.encode.utf8ByteSize ≤ maxCursorLength)
    (kind : PageKind) :
    decode t.encode kind = if kind = t.kind then .ok t else .error (.wrongKind kind t.kind) := by
  simp only [decode, checkedCursor_encode short, bind, Except.bind, cursorRecord?_encode]
  exact t.ofRecord_record kind

/-- A token is read back from its cursor, if that is not too long. -/
theorem decode_encode {t : PageToken} (short : t.encode.utf8ByteSize ≤ maxCursorLength) :
    decode t.encode t.kind = .ok t := by
  rw [decode_encode_of_le short, if_pos rfl]

/-- What the cursor of a token is read as, for pages of either kind, and what it is made of: the
token itself for pages of its own kind, whatever its resume key holds, and nothing for pages of the
other kind or when it is too long. -/
theorem decode_encode_eq (t : PageToken) (kind : PageKind) :
    (decode t.encode kind =
      if maxCursorLength < t.encode.utf8ByteSize then
        .error (.tooLong t.encode.utf8ByteSize maxCursorLength)
      else if kind = t.kind then .ok t
      else .error (.wrongKind kind t.kind)) ∧
    t.encode.toList.all Base64.isUrlSafeChar = true := by
  constructor
  · by_cases long : maxCursorLength < t.encode.utf8ByteSize
    · have refused := decode_of_long (t.trim_encode.symm ▸ long) kind
      rw [if_pos long, refused, trim_encode]
    · rw [if_neg long, decode_encode_of_le (Nat.not_lt.1 long)]
  · rw [List.all_eq_true, encode_eq, String.toList_ofList]
    exact fun c => Base64.isUrlSafeChar_of_mem_encode

/-! ## Length -/

theorem length_record_bytes_le (t : PageToken) :
    t.record.bytes.length ≤ 6 * t.resumeKey.utf8ByteSize + 81 := by
  have key := Json.length_quote_le t.resumeKey
  have kind : (Json.quote t.kind.name).length ≤ 9 := by cases t.kind <;> decide
  have low := t.pageSize.le_toInt
  have high := t.pageSize.toInt_lt
  have size : (Text.integerText t.pageSize.toInt).length ≤ 11 :=
    Text.length_integerText_le (by decide) (by omega)
  have version : (Text.decimalChars recordVersion.toNat).length = 1 := by decide
  have nameV : (Json.quote "v").length = 3 := by decide
  have nameKind : (Json.quote "kind").length = 6 := by decide
  have nameKey : (Json.quote "key").length = 5 := by decide
  have nameTotal : (Json.quote "total").length = 7 := by decide
  have nameSize : (Json.quote "size").length = 6 := by decide
  cases total : t.total with
  | none =>
    simp [PageRecord.bytes, PageRecord.fields, PageRecord.field, PageRecord.asciiBytes, record,
      total, nameV, nameKind, nameKey, nameSize, version]
    omega
  | some n =>
    have count : (Text.decimalChars n.toNat).length ≤ 20 :=
      Text.length_decimalChars_le (by decide) (by have := n.toNat_lt; omega)
    simp [PageRecord.bytes, PageRecord.fields, PageRecord.field, PageRecord.asciiBytes, record,
      total, nameV, nameKind, nameKey, nameTotal, nameSize, version]
    omega

/-- A cursor is at most eight times as long as the resume key in it, up to a constant. -/
theorem utf8ByteSize_encode_le (t : PageToken) :
    t.encode.utf8ByteSize ≤ 8 * t.resumeKey.utf8ByteSize + 110 := by
  have ascii : ∀ c ∈ t.cursorChars, c.toNat < 0x80 := fun c hc => by
    have := printable_of_mem_cursorChars hc
    omega
  have bytes := t.length_record_bytes_le
  rw [encode_eq, Text.utf8ByteSize_ofList ascii, cursorChars, Base64.length_encode_urlSafe]
  omega

end PageToken

end HydroArchive
