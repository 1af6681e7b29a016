import HydroArchive.Proofs.Json.Closing
import HydroArchive.Proofs.Page.Cursor
import HydroArchive.Proofs.Text.Split
import HydroArchive.Proofs.Text.Utf8

/-!
# Delimited cursors are read back

Callers still hold cursors of the older form.  They keep their meaning, although every cursor is
first taken for one of the structured form: the text of a record ends with a brace or a bracket,
and a delimited text of several parts ends with a count or with the delimiter.  Only a resume key
that stands alone could be a record itself.

## Main definitions

* `WritesTotal`, `writtenSize` — how counts are written.
* `PageToken.WrittenAs` — the parts of a token.

## Main statements

* `decode_of_noRecord` — what a cursor without a record is read as.
* `PageToken.decode_encodeParts` — the token from its delimited cursor.
-/

namespace HydroArchive

open Json (Value)

/-! ## Delimiters -/

namespace PageKind

theorem delimiter_ne_empty (k : PageKind) : k.delimiter ≠ "" := by
  cases k <;> decide

@[simp] theorem head?_delimiter (k : PageKind) : k.delimiter.toList.head? = some '|' := by
  cases k <;> rfl

theorem eq_of_mem_delimiter {k : PageKind} : ∀ c ∈ k.delimiter.toList, c = '|' := by
  intro c hc
  cases k with
  | values => exact List.eq_of_mem_replicate (n := 1) hc
  | catalog => exact List.eq_of_mem_replicate (n := 3) hc

end PageKind

/-! ## Cursors without a record -/

/-- The bytes of a cursor do not depend on the alphabet in which it is read. -/
theorem eq_of_cursorBytes? {cursor : String} {bs bs' : List UInt8}
    (held : cursorBytes? cursor = some bs)
    (urlSafe : Base64.decode? Base64.urlSafe cursor.toList = some bs') : bs' = bs := by
  rw [cursorBytes?, urlSafe] at held
  cases standard : Base64.decode? Base64.standard cursor.toList with
  | none =>
    rw [standard] at held
    exact Option.some_inj.1 held
  | some bs'' =>
    rw [standard] at held
    exact (Base64.decode?_agree urlSafe standard).trans (Option.some_inj.1 held)

/-- A cursor that holds bytes but no record is read as a delimited one. -/
theorem decode_of_noRecord {cursor : String} (filled : Text.trim cursor ≠ "")
    (short : (Text.trim cursor).utf8ByteSize ≤ maxCursorLength)
    (noRecord : cursorRecord? (Text.trim cursor) = none) {bs : List UInt8}
    (held : cursorBytes? (Text.trim cursor) = some bs) (kind : PageKind) :
    PageToken.decode cursor kind =
      match Text.ofBytes? bs with
      | none => .error .invalidText
      | some text => PageToken.ofParts kind (Text.split kind.delimiter text) := by
  have again : checkedCursor (Text.trim cursor) = .ok (Text.trim (Text.trim cursor)) :=
    PageToken.checkedCursor_of_le (by rwa [Text.trim_trim]) (by rwa [Text.trim_trim])
  rw [Text.trim_trim] at again
  simp only [PageToken.decode, PageToken.checkedCursor_of_le filled short, bind, Except.bind,
    noRecord, decodeParts, again, held]
  cases Text.ofBytes? bs <;> rfl

/-- The text of a record ends with a brace or a bracket, up to blanks. -/
theorem PageRecord.endsWith_of_ofBytes? {bs : List UInt8} {r : PageRecord}
    (h : ofBytes? bs = some r) : Json.EndsWith '}' bs ∨ Json.EndsWith ']' bs := by
  obtain ⟨v, value, record⟩ := Option.bind_eq_some_iff.1 h
  unfold ofValue? at record
  split at record
  · exact Or.inl (Json.endsWith_of_object value)
  · exact Or.inr (Json.endsWith_of_array value)
  · cases record

/-! ## Cursors that hold parts -/

section Parts

variable {parts : List String} {delimiter : String}

theorem isBlank_of_mem_encodeParts {c : Char} (h : c ∈ (encodeParts parts delimiter).toList) :
    Text.isBlank c = false := by
  rw [encodeParts, String.toList_ofList] at h
  have := Base64.printable_of_mem_encode Base64.standard_lawful h
  exact Text.isBlank_eq_false (by omega) (by omega)

theorem trim_encodeParts :
    Text.trim (encodeParts parts delimiter) = encodeParts parts delimiter := by
  rw [← String.ofList_toList (s := encodeParts parts delimiter)]
  exact Text.trim_ofList fun _ => isBlank_of_mem_encodeParts

theorem cursorBytes?_encodeParts :
    cursorBytes? (encodeParts parts delimiter)
      = some (Text.bytes (Text.join delimiter parts)) := by
  rw [cursorBytes?, encodeParts, String.toList_ofList,
    Base64.decode?_encode Base64.standard_lawful, Option.some_or]

/-- Bytes that hold no record do not come to hold one in the other alphabet. -/
theorem cursorRecord?_encodeParts
    (noRecord : PageRecord.ofBytes? (Text.bytes (Text.join delimiter parts)) = none) :
    cursorRecord? (encodeParts parts delimiter) = none := by
  rw [cursorRecord?]
  cases read : Base64.decode? Base64.urlSafe (encodeParts parts delimiter).toList with
  | none => rfl
  | some bs =>
    rw [eq_of_cursorBytes? cursorBytes?_encodeParts read]
    exact noRecord

theorem encodeParts_ne_empty (filled : Text.join delimiter parts ≠ "") :
    encodeParts parts delimiter ≠ "" := by
  have bytes : Text.bytes (Text.join delimiter parts) ≠ [] := by
    intro none
    have same := Text.ofBytes?_bytes (Text.join delimiter parts)
    rw [none] at same
    exact filled (Option.some_inj.1 (same.symm.trans (Text.ofBytes?_bytes "")))
  intro empty
  exact Base64.encode_ne_nil bytes (by simpa [encodeParts] using congrArg String.toList empty)

end Parts

/-! ## Counts -/

/-- The texts of a total: its digits, or nothing or the word `null` for an unknown one. -/
inductive WritesTotal : Option UInt64 → String → Prop
  | known (n : UInt64) : WritesTotal (some n) (String.ofList (Text.decimalChars n.toNat))
  | empty : WritesTotal none ""
  | null {text : String} (word : Text.sameFold text "null" = true) : WritesTotal none text

def writtenSize (n : Int32) : String := String.ofList (Text.integerText n.toInt)

/-- The characters of written counts. -/
def isCountChar (c : Char) : Bool := c.isAlphanum || c == '-'

theorem isAlpha_iff {c : Char} :
    c.isAlpha = true ↔ (65 ≤ c.toNat ∧ c.toNat ≤ 90) ∨ (97 ≤ c.toNat ∧ c.toNat ≤ 122) := by
  change (decide (_ ∧ _) || (decide _ && decide _)) = true ↔ _
  simp only [Bool.or_eq_true, Bool.and_eq_true, decide_eq_true_eq]
  exact Iff.rfl

theorem isCountChar_iff {c : Char} :
    isCountChar c = true ↔ c.isAlpha = true ∨ c.isDigit = true ∨ c = '-' := by
  change (c.isAlpha || c.isDigit || c == '-') = true ↔ _
  simp only [Bool.or_eq_true, beq_iff_eq, or_assoc]

theorem toNat_of_isCountChar {c : Char} (h : isCountChar c = true) :
    0x20 < c.toNat ∧ c.toNat < 0x7B := by
  rcases isCountChar_iff.1 h with letter | digit | rfl
  · have range := isAlpha_iff.1 letter
    omega
  · have range := Text.toNat_of_isDigit digit
    omega
  · decide

theorem isBlank_of_isCountChar {c : Char} (h : isCountChar c = true) : Text.isBlank c = false := by
  have := toNat_of_isCountChar h
  exact Text.isBlank_eq_false (by omega) (by omega)

/-- Only letters are folded to the letters of `null`. -/
theorem isAlpha_of_sameFold_null {text : String} (word : Text.sameFold text "null" = true)
    {c : Char} (h : c ∈ text.toList) : c.isAlpha = true := by
  have folded : c.toLower ∈ ['n', 'u', 'l', 'l'] := by
    rw [Text.sameFold_iff] at word
    have here : c.toLower ∈ Text.asciiFold text := List.mem_map_of_mem h
    rwa [word] at here
  by_cases upper : 65 ≤ c.toNat ∧ c.toNat ≤ 90
  · exact isAlpha_iff.2 (Or.inl upper)
  · have same : c.toLower = c := dif_neg upper
    have letter : c = 'n' ∨ c = 'u' ∨ c = 'l' := by simpa [same] using folded
    rcases letter with rfl | rfl | rfl <;> decide

theorem WritesTotal.isCountChar {total : Option UInt64} {text : String}
    (h : WritesTotal total text) : ∀ c ∈ text.toList, isCountChar c = true := by
  intro c hc
  cases h with
  | known n =>
    rw [String.toList_ofList] at hc
    exact isCountChar_iff.2 (Or.inr (Or.inl (Text.isDigit_of_mem_decimalChars hc)))
  | empty => cases hc
  | null word => exact isCountChar_iff.2 (Or.inl (isAlpha_of_sameFold_null word hc))

theorem isCountChar_of_mem_writtenSize {n : Int32} :
    ∀ c ∈ (writtenSize n).toList, isCountChar c = true := by
  intro c hc
  rw [writtenSize, String.toList_ofList] at hc
  rcases Text.eq_or_isDigit_of_mem_integerText hc with rfl | digit
  · decide
  · exact isCountChar_iff.2 (Or.inr (Or.inl digit))

/-- A text without blanks is trimmed to itself. -/
theorem trim_of_isCountChar {text : String} (h : ∀ c ∈ text.toList, isCountChar c = true) :
    Text.trim text = text := by
  rw [← String.ofList_toList (s := text)]
  exact Text.trim_ofList fun c hc => isBlank_of_isCountChar (h c hc)

/-- Counts and delimiters hold neither blanks nor the end of an object or an array. -/
theorem apart_of_isCountChar {c : Char} (h : isCountChar c = true ∨ c = '|') :
    c.toNat < 128 ∧ c ≠ '}' ∧ c ≠ ']' ∧ Json.isSpace c = false := by
  rcases h with count | rfl
  · have range := toNat_of_isCountChar count
    refine ⟨by omega, ?_, ?_, ?_⟩
    · rintro rfl
      exact absurd count (by decide)
    · rintro rfl
      exact absurd count (by decide)
    · rw [Bool.eq_false_iff]
      intro blank
      rcases Json.isSpace_iff.1 blank with rfl | rfl | rfl | rfl <;> exact absurd count (by decide)
  · decide

/-- A text that ends with a count or a delimiter is not that of a record. -/
theorem PageRecord.ofBytes?_eq_none_of_last {front : List Char} {c : Char}
    (last : isCountChar c = true ∨ c = '|') :
    ofBytes? (Text.bytes (String.ofList (front ++ [c]))) = none := by
  obtain ⟨small, noBrace, noBracket, noBlank⟩ := apart_of_isCountChar last
  have ascii : ∀ x ∈ [c], x.toNat < 128 := by
    intro x hx
    rwa [List.mem_singleton.1 hx]
  rw [Text.bytes_append_ascii front ascii, Option.eq_none_iff_forall_ne_some]
  intro r record
  rcases endsWith_of_ofBytes? record with brace | bracket
  · exact Json.not_endsWith_concat (by omega) (by decide) noBrace noBlank _ brace
  · exact Json.not_endsWith_concat (by omega) (by decide) noBracket noBlank _ bracket

theorem readTotal_of_writesTotal {total : Option UInt64} {text : String}
    (h : WritesTotal total text) : readTotal text = .ok total := by
  simp only [readTotal, trim_of_isCountChar h.isCountChar]
  cases h with
  | empty => rfl
  | null word => rw [if_pos (Or.inr word)]
  | known n =>
    have bound : n.toNat ≤ Text.maxNatural64 := by
      have := n.toNat_lt
      rw [Text.maxNatural64]
      omega
    obtain ⟨c, cs, digits⟩ := List.exists_cons_of_ne_nil (Text.decimalChars_ne_nil n.toNat)
    have filled : String.ofList (Text.decimalChars n.toNat) ≠ "" := by
      rw [digits]
      simp
    have noWord : ¬ Text.sameFold (String.ofList (Text.decimalChars n.toNat)) "null" = true := by
      intro word
      have here : c ∈ Text.decimalChars n.toNat := digits ▸ List.mem_cons_self
      have letter := isAlpha_iff.1 (isAlpha_of_sameFold_null word (by simpa using here))
      have digit := Text.toNat_of_isDigit (Text.isDigit_of_mem_decimalChars here)
      omega
    rw [if_neg (not_or.2 ⟨filled, noWord⟩), Text.natural64?, Text.natural?_decimalChars bound]
    simp

@[simp] theorem readPageSize_writtenSize (n : Int32) : readPageSize (writtenSize n) = .ok n := by
  have low := n.le_toInt
  have high := n.toInt_lt
  simp only [readPageSize, trim_of_isCountChar isCountChar_of_mem_writtenSize]
  rw [Text.integer32?, writtenSize, Text.integer?_integerText
    (by simp only [Text.minInteger32]; omega) (by simp only [Text.maxInteger32]; omega)]
  simp

/-! ## Read parts -/

/-- Two counts are read if each of them is. -/
theorem counts_eq_ok_iff {total : Except CursorError (Option UInt64)}
    {size : Except CursorError Int32} {counts : Option UInt64 × Int32} :
    (do return (← total, ← size)) = Except.ok counts ↔
      total = .ok counts.1 ∧ size = .ok counts.2 := by
  constructor
  · intro h
    cases total with
    | error e => cases h
    | ok n =>
      cases size with
      | error e => cases h
      | ok k =>
        cases h
        exact ⟨rfl, rfl⟩
  · rintro ⟨rfl, rfl⟩
    rfl

/-- In a values cursor the last one of several parts is the page size. -/
theorem readCounts_values {total : String} {parts : List String} (ne : parts ≠ []) :
    readCounts .values (total :: parts)
      = do return (← readTotal total, ← readPageSize (parts.getLast ne)) := by
  cases parts with
  | nil => exact absurd rfl ne
  | cons part parts => rfl

/-- The first part is the resume key, and the others are the counts. -/
theorem ofParts_eq_ok_iff {kind : PageKind} {key : String} {parts : List String} {t : PageToken} :
    PageToken.ofParts kind (key :: parts) = .ok t ↔
      t.kind = kind ∧ t.resumeKey = key ∧ readCounts kind parts = .ok (t.total, t.pageSize) := by
  rw [PageToken.ofParts, List.tail_cons, List.headD_cons]
  cases counts : readCounts kind parts with
  | error e =>
    constructor
    · intro h
      cases h
    · rintro ⟨-, -, same⟩
      cases same
  | ok pair =>
    constructor
    · intro h
      cases h
      exact ⟨rfl, rfl, rfl⟩
    · rintro ⟨rfl, rfl, same⟩
      cases same
      rfl

/-! ## Written tokens -/

namespace PageToken

/-- The parts of a token in a delimited cursor. -/
inductive WrittenAs : PageToken → List String → Prop
  /-- A resume key alone; an empty one would make an empty cursor. -/
  | key {kind : PageKind} {key : String} (filled : key ≠ "")
      (noRecord : PageRecord.ofBytes? (Text.bytes key) = none) :
      WrittenAs ⟨kind, key, none, 0⟩ [key]
  | catalogTotal {key text : String} {total : Option UInt64} (written : WritesTotal total text) :
      WrittenAs ⟨.catalog, key, total, 0⟩ [key, text]
  | catalogCounts {key text : String} {total : Option UInt64} {size : Int32}
      (written : WritesTotal total text) :
      WrittenAs ⟨.catalog, key, total, size⟩ [key, text, writtenSize size]
  | valuesSize {key : String} {size : Int32} :
      WrittenAs ⟨.values, key, none, size⟩ [key, writtenSize size]
  | valuesCounts {key text : String} {total : Option UInt64} {size : Int32} {middle : List String}
      (written : WritesTotal total text) (free : ∀ part ∈ middle, '|' ∉ part.toList) :
      WrittenAs ⟨.values, key, total, size⟩ (key :: text :: middle ++ [writtenSize size])

variable {t : PageToken} {parts : List String}

theorem WrittenAs.ofParts (h : t.WrittenAs parts) : PageToken.ofParts t.kind parts = .ok t := by
  cases h with
  | key filled noRecord => cases ‹PageKind› <;> rfl
  | catalogTotal written =>
    refine ofParts_eq_ok_iff.2 ⟨rfl, rfl, ?_⟩
    rw [readCounts, readTotal_of_writesTotal written]
    rfl
  | catalogCounts written =>
    refine ofParts_eq_ok_iff.2 ⟨rfl, rfl, ?_⟩
    rw [readCounts, counts_eq_ok_iff]
    exact ⟨readTotal_of_writesTotal written, readPageSize_writtenSize _⟩
  | valuesSize =>
    refine ofParts_eq_ok_iff.2 ⟨rfl, rfl, ?_⟩
    rw [readCounts, readPageSize_writtenSize]
    rfl
  | @valuesCounts key text total size middle written free =>
    have filled : middle ++ [writtenSize size] ≠ [] := by simp
    refine ofParts_eq_ok_iff.2 ⟨rfl, rfl, (readCounts_values filled).trans ?_⟩
    rw [counts_eq_ok_iff, List.getLast_append_singleton]
    exact ⟨readTotal_of_writesTotal written, readPageSize_writtenSize size⟩

theorem WrittenAs.ne_nil (h : t.WrittenAs parts) : parts ≠ [] := by
  cases h <;> exact List.cons_ne_nil _ _

theorem not_mem_of_isCountChar {text : String} (h : ∀ c ∈ text.toList, isCountChar c = true) :
    '|' ∉ text.toList := by
  intro hc
  exact absurd (h _ hc) (by decide)

/-- No part holds a character of a delimiter, if the resume key does not. -/
theorem WrittenAs.free (h : t.WrittenAs parts) (bare : '|' ∉ t.resumeKey.toList) :
    ∀ part ∈ parts, '|' ∉ part.toList := by
  have size {n : Int32} : '|' ∉ (writtenSize n).toList :=
    not_mem_of_isCountChar isCountChar_of_mem_writtenSize
  have total {n : Option UInt64} {text : String} (written : WritesTotal n text) :
      '|' ∉ text.toList := not_mem_of_isCountChar written.isCountChar
  cases h with
  | key filled noRecord => simpa using bare
  | catalogTotal written => simpa using ⟨bare, total written⟩
  | catalogCounts written => simpa using ⟨bare, total written, size⟩
  | valuesSize => simpa using ⟨bare, size⟩
  | valuesCounts written free =>
    intro part hpart
    rcases List.mem_append.1 hpart with front | last
    · rcases List.mem_cons.1 front with rfl | later
      · exact bare
      · rcases List.mem_cons.1 later with rfl | inside
        · exact total written
        · exact free part inside
    · rw [List.mem_singleton.1 last]
      exact size

/-- Several parts end with a count, which may be empty. -/
theorem WrittenAs.exists_last (h : t.WrittenAs parts) (several : 2 ≤ parts.length) :
    ∃ front last, front ≠ [] ∧ parts = front ++ [last] ∧
      ∀ c ∈ last.toList, isCountChar c = true := by
  cases h with
  | key filled noRecord => exact absurd several (by simp)
  | catalogTotal written => exact ⟨[_], _, List.cons_ne_nil _ _, rfl, written.isCountChar⟩
  | catalogCounts written =>
    exact ⟨[_, _], _, List.cons_ne_nil _ _, rfl, isCountChar_of_mem_writtenSize⟩
  | valuesSize => exact ⟨[_], _, List.cons_ne_nil _ _, rfl, isCountChar_of_mem_writtenSize⟩
  | valuesCounts written free =>
    exact ⟨_ :: _ :: _, _, List.cons_ne_nil _ _, rfl, isCountChar_of_mem_writtenSize⟩

/-- The text of several parts ends with a count or, where that is empty, with the delimiter. -/
theorem WrittenAs.exists_last_char (h : t.WrittenAs parts) (several : 2 ≤ parts.length) :
    ∃ front c, Text.join t.kind.delimiter parts = String.ofList (front ++ [c]) ∧
      (isCountChar c = true ∨ c = '|') := by
  obtain ⟨front, last, ne, rfl, count⟩ := h.exists_last several
  -- the delimiter in front of the last part keeps the ending from being empty
  have ending : t.kind.delimiter.toList ++ last.toList ≠ [] := fun none =>
    Text.toList_ne_nil t.kind.delimiter_ne_empty (List.append_eq_nil_iff.1 none).1
  obtain ⟨init, c, split⟩ := (List.eq_nil_or_concat _).resolve_left ending
  rw [List.concat_eq_append] at split
  have char : c ∈ t.kind.delimiter.toList ++ last.toList :=
    split ▸ List.mem_append_right init List.mem_cons_self
  refine ⟨t.kind.delimiter.toList.intercalate (front.map String.toList) ++ init, c, ?_, ?_⟩
  · rw [Text.join, List.map_append, List.map_singleton, Text.intercalate_concat (by simpa using ne),
      split, List.append_assoc]
  · exact (List.mem_append.1 char).symm.imp (count c) (PageKind.eq_of_mem_delimiter c)

theorem WrittenAs.join_ne_empty (h : t.WrittenAs parts) :
    Text.join t.kind.delimiter parts ≠ "" := by
  by_cases several : 2 ≤ parts.length
  · obtain ⟨front, c, text, -⟩ := h.exists_last_char several
    rw [text]
    simp
  · cases h with
    | key filled noRecord => simpa [Text.join] using filled
    | catalogTotal | catalogCounts | valuesSize | valuesCounts => simp at several

theorem WrittenAs.noRecord (h : t.WrittenAs parts) :
    PageRecord.ofBytes? (Text.bytes (Text.join t.kind.delimiter parts)) = none := by
  by_cases several : 2 ≤ parts.length
  · obtain ⟨front, c, text, last⟩ := h.exists_last_char several
    rw [text]
    exact PageRecord.ofBytes?_eq_none_of_last last
  · cases h with
    | key filled noRecord => simpa [Text.join] using noRecord
    | catalogTotal | catalogCounts | valuesSize | valuesCounts => simp at several

/-- A token is read back from its delimited cursor, for pages of its kind, if the resume key holds
no character of a delimiter and the cursor is not too long.  Only a resume key that stands alone has
to be told from a record; no cursor of several parts holds one. -/
theorem decode_encodeParts (written : t.WrittenAs parts) (bare : '|' ∉ t.resumeKey.toList)
    (short : (encodeParts parts t.kind.delimiter).utf8ByteSize ≤ maxCursorLength) :
    decode (encodeParts parts t.kind.delimiter) t.kind = .ok t ∧
      (2 ≤ parts.length → cursorRecord? (encodeParts parts t.kind.delimiter) = none) := by
  have noRecord := cursorRecord?_encodeParts written.noRecord
  refine ⟨?_, fun _ => noRecord⟩
  have filled := encodeParts_ne_empty written.join_ne_empty
  have undone : Text.split t.kind.delimiter (Text.join t.kind.delimiter parts) = parts := by
    refine Text.split_join t.kind.delimiter_ne_empty written.ne_nil fun part hpart c hc first => ?_
    rw [t.kind.head?_delimiter, Option.some_inj] at first
    exact written.free bare part hpart (first ▸ hc)
  have readBack := decode_of_noRecord (trim_encodeParts.symm ▸ filled)
    (trim_encodeParts.symm ▸ short) (trim_encodeParts.symm ▸ noRecord)
    (trim_encodeParts.symm ▸ cursorBytes?_encodeParts) t.kind
  simpa only [Text.ofBytes?_bytes, undone, written.ofParts] using readBack

/-- A values cursor of four parts, the third of which says nothing. -/
theorem decode_encodeParts_sample :
    decode "MTYyMzM1NTIwMDAwMHw3fHh8MTAw" .values = .ok ⟨.values, "1623355200000", some 7, 100⟩ ∧
      cursorRecord? "MTYyMzM1NTIwMDAwMHw3fHh8MTAw" = none := by
  have total : String.ofList (Text.decimalChars (7 : UInt64).toNat) = "7" := by decide
  have size : writtenSize 100 = "100" := by decide
  have middle : ∀ part ∈ ["x"], '|' ∉ part.toList := by decide
  have written : WrittenAs ⟨.values, "1623355200000", some 7, 100⟩
      ["1623355200000", "7", "x", "100"] :=
    size ▸ total ▸ .valuesCounts (.known 7) middle
  have cursor : encodeParts ["1623355200000", "7", "x", "100"] "|"
      = "MTYyMzM1NTIwMDAwMHw3fHh8MTAw" := by decide
  have readBack := decode_encodeParts written (by decide) (by decide)
  exact ⟨cursor ▸ readBack.1, cursor ▸ readBack.2 (by decide)⟩

end PageToken

end HydroArchive
