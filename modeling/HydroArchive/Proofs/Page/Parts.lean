import HydroArchive.Proofs.Page.Delimited

/-!
# The parts of a delimited cursor

A delimited cursor holds a text, and its parts are the text cut at the delimiter.  So parts come
back from their cursor if no character of the delimiter stands in them.  The parts that a cursor was
read as come back in any case: cut and joined again, they make up the text that the cursor held.
They also fit into a cursor again, although the padded alphabet may be longer than the one in which
they came, since the longest cursor is made of full groups of digits.

## Main definitions

* `HoldsText` — the text in a cursor, whatever the delimiter is.

## Main statements

* `decodeParts_eq_ok_iff` — the parts are those of the text.
* `decodeParts_encodeParts` — parts come back from their cursor.
-/

namespace HydroArchive

/-- A cursor is neither blank nor too long, and its digits, in one of the alphabets, are a text. -/
structure HoldsText (cursor text : String) : Prop where
  filled : Text.trim cursor ≠ ""
  short : (Text.trim cursor).utf8ByteSize ≤ maxCursorLength
  held : cursorBytes? (Text.trim cursor) = some (Text.bytes text)

theorem checkedCursor_eq_ok_iff {cursor checked : String} :
    checkedCursor cursor = .ok checked ↔
      (Text.trim cursor ≠ "" ∧ (Text.trim cursor).utf8ByteSize ≤ maxCursorLength) ∧
        Text.trim cursor = checked := by
  constructor
  · intro h
    by_cases blank : Text.trim cursor = ""
    · simp only [checkedCursor, if_pos blank] at h
      cases h
    by_cases long : (Text.trim cursor).utf8ByteSize > maxCursorLength
    · simp only [checkedCursor, if_neg blank, if_pos long] at h
      cases h
    simp only [checkedCursor, if_neg blank, if_neg long] at h
    exact ⟨⟨blank, Nat.not_lt.1 long⟩, Except.ok.inj h⟩
  · rintro ⟨⟨filled, short⟩, rfl⟩
    exact PageToken.checkedCursor_of_le filled short

/-- The parts in a cursor are those of the text in it. -/
theorem decodeParts_eq_ok_iff {cursor delimiter : String} {parts : List String} :
    decodeParts cursor delimiter = .ok parts ↔
      ∃ text, HoldsText cursor text ∧ Text.split delimiter text = parts := by
  constructor
  · intro h
    cases checked : checkedCursor cursor with
    | error e =>
      rw [decodeParts, checked] at h
      cases h
    | ok trimmed =>
      obtain ⟨⟨filled, short⟩, rfl⟩ := checkedCursor_eq_ok_iff.1 checked
      simp only [decodeParts, checked, bind, Except.bind] at h
      cases held : cursorBytes? (Text.trim cursor) with
      | none =>
        rw [held] at h
        cases h
      | some bs =>
        cases written : Text.ofBytes? bs with
        | none =>
          simp only [held, written] at h
          cases h
        | some text =>
          simp only [held, written] at h
          have own := Text.bytes_of_ofBytes? written
          exact ⟨text, ⟨filled, short, own ▸ held⟩, Except.ok.inj h⟩
  · rintro ⟨text, h, rfl⟩
    have checked := PageToken.checkedCursor_of_le h.filled h.short
    simp only [decodeParts, checked, bind, Except.bind, h.held, Text.ofBytes?_bytes]

/-! ## How long a text is -/

theorem length_of_cursorBytes? {cursor : String} {bs : List UInt8}
    (h : cursorBytes? cursor = some bs) :
    4 * bs.length ≤ 3 * cursor.toList.length ∧ cursor.toList.length ≤ 4 * bs.length := by
  rcases Option.or_eq_some_iff.1 h with standard | ⟨-, urlSafe⟩
  · exact Base64.length_of_decode? standard
  · exact Base64.length_of_decode? urlSafe

theorem HoldsText.length_bytes {cursor text : String} (h : HoldsText cursor text) :
    4 * (Text.bytes text).length ≤ 3 * maxCursorLength := by
  have bounds := length_of_cursorBytes? h.held
  have chars := Text.length_le_utf8ByteSize (Text.trim cursor).toList
  rw [String.ofList_toList] at chars
  have short := h.short
  omega

theorem HoldsText.text_ne_empty {cursor text : String} (h : HoldsText cursor text) : text ≠ "" := by
  rintro rfl
  have bounds := length_of_cursorBytes? h.held
  have none : (Text.bytes "").length = 0 := rfl
  exact h.filled (String.toList_eq_nil_iff.1 (List.length_eq_zero_iff.1 (by omega)))

/-! ## Cursors of parts -/

section Parts

variable {parts : List String} {delimiter : String}

theorem utf8ByteSize_encodeParts :
    (encodeParts parts delimiter).utf8ByteSize
      = 4 * (((Text.bytes (Text.join delimiter parts)).length + 2) / 3) := by
  have ascii : ∀ c ∈ Base64.encode Base64.standard (Text.bytes (Text.join delimiter parts)),
      c.toNat < 0x80 := by
    intro c hc
    have := Base64.printable_of_mem_encode Base64.standard_lawful hc
    omega
  rw [encodeParts, Text.utf8ByteSize_ofList ascii, Base64.length_encode_standard]

/-- The cursor of some parts holds their text, unless there is none or it is too long. -/
theorem holdsText_encodeParts (filled : Text.join delimiter parts ≠ "")
    (short : (encodeParts parts delimiter).utf8ByteSize ≤ maxCursorLength) :
    HoldsText (encodeParts parts delimiter) (Text.join delimiter parts) where
  filled := trim_encodeParts.symm ▸ encodeParts_ne_empty filled
  short := trim_encodeParts.symm ▸ short
  held := trim_encodeParts.symm ▸ cursorBytes?_encodeParts

/-- The text of a cursor fits into a cursor in the padded alphabet, too. -/
theorem HoldsText.utf8ByteSize_encodeParts_le {cursor : String}
    (h : HoldsText cursor (Text.join delimiter parts)) :
    (encodeParts parts delimiter).utf8ByteSize ≤ maxCursorLength := by
  -- the bound holds since a cursor of the greatest length has full groups of four digits
  have bytes := h.length_bytes
  have groups : maxCursorLength = 4 * 2048 := rfl
  rw [utf8ByteSize_encodeParts]
  omega

/-- Parts come back from their cursor if no character of the delimiter stands in them, they are not
all empty, and the cursor is not too long.  The parts that any cursor was read as come back without
these conditions. -/
theorem decodeParts_encodeParts (separates : delimiter ≠ "") :
    (∀ parts : List String, parts ≠ [] →
      (∀ part ∈ parts, ∀ c ∈ part.toList, c ∉ delimiter.toList) →
      Text.join delimiter parts ≠ "" →
      (encodeParts parts delimiter).utf8ByteSize ≤ maxCursorLength →
      decodeParts (encodeParts parts delimiter) delimiter = .ok parts) ∧
    (∀ cursor parts, decodeParts cursor delimiter = .ok parts →
      (encodeParts parts delimiter).utf8ByteSize ≤ maxCursorLength ∧
        decodeParts (encodeParts parts delimiter) delimiter = .ok parts) := by
  constructor
  · intro parts ne free filled short
    refine decodeParts_eq_ok_iff.2 ⟨_, holdsText_encodeParts filled short, ?_⟩
    refine Text.split_join separates ne fun part hpart c hc first => ?_
    exact free part hpart c hc (List.mem_of_head? first)
  · intro cursor parts read
    obtain ⟨text, holds, rfl⟩ := decodeParts_eq_ok_iff.1 read
    have whole : Text.join delimiter (Text.split delimiter text) = text :=
      Text.join_split separates text
    have short := (whole.symm ▸ holds).utf8ByteSize_encodeParts_le
    refine ⟨short, decodeParts_eq_ok_iff.2 ⟨text, ?_, rfl⟩⟩
    have again := holdsText_encodeParts (whole.symm ▸ holds.text_ne_empty) short
    rwa [whole] at again

/-- Parts of which the middle one is empty, and a cursor that came without padding, between blanks
and in the alphabet for URLs. -/
theorem decodeParts_encodeParts_sample :
    decodeParts (encodeParts ["SWT", "", "KEYS"] "::") "::" = .ok ["SWT", "", "KEYS"] ∧
      decodeParts " Pz8-fDc " "|" = .ok ["??>", "7"] ∧
      (encodeParts ["??>", "7"] "|").utf8ByteSize ≤ maxCursorLength ∧
      decodeParts (encodeParts ["??>", "7"] "|") "|" = .ok ["??>", "7"] := by
  have free : ∀ part ∈ ["SWT", "", "KEYS"], ∀ c ∈ part.toList, c ∉ "::".toList := by simp
  have read : decodeParts " Pz8-fDc " "|" = .ok ["??>", "7"] := by decide
  exact ⟨(decodeParts_encodeParts (by decide)).1 _ (by decide) free (by decide) (by decide),
    read, (decodeParts_encodeParts (by decide)).2 _ _ read⟩

end Parts

end HydroArchive
