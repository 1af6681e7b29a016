import HydroArchive.Proofs.Page.Delimited
import HydroArchive.Proofs.Page.Object

/-!
# Cursors that hold an object

An object in a cursor is taken for a record first.  If it is not one, or if the cursor is not in the
alphabet of structured cursors, its text is read as a delimited cursor.  Such a text ends with a
brace, so its last part is never a number, and there are only two ways in which it can be read: the
whole text is a resume key, or, in a catalog cursor, the counts stand in front of the last part.

## Main definitions

* `HoldsRecord` — the object in a cursor is read as a record.
* `TakenFor` — the tokens that the text of an object can be taken for.

## Main statements

* `cursorRecord?_eq_some_iff` — the record that a cursor with an object holds.
* `ofParts_split_eq_ok_iff` — what the text of an object is taken for.
* `PageToken.decode_of_object` — what a cursor with an object is read as.
-/

namespace HydroArchive

open Json (Value)

/-! ## Records -/

/-- A cursor is in the alphabet of structured cursors, and the fields of the object in it spell a
record. -/
structure HoldsRecord (cursor : String) (raw : List (List UInt8 × Value)) (r : PageRecord) :
    Prop where
  urlSafe : (Base64.decode? Base64.urlSafe cursor.toList).isSome
  spelled : ∃ fields, PageRecord.namedFields? raw = some fields ∧ r.SpelledBy fields

section Object

variable {cursor : String} {bs : List UInt8} {raw : List (List UInt8 × Value)}

theorem cursorRecord?_eq_some_iff (held : cursorBytes? cursor = some bs)
    (object : Value.ofBytes? bs = some (.object raw)) {r : PageRecord} :
    cursorRecord? cursor = some r ↔ HoldsRecord cursor raw r := by
  have record : PageRecord.ofBytes? bs = some r ↔
      ∃ fields, PageRecord.namedFields? raw = some fields ∧ r.SpelledBy fields := by
    rw [PageRecord.ofBytes?, object, Option.bind_some, PageRecord.ofValue?_object_iff]
  constructor
  · intro h
    obtain ⟨bs', urlSafe, read⟩ := Option.bind_eq_some_iff.1 h
    obtain rfl := eq_of_cursorBytes? held urlSafe
    exact ⟨Option.isSome_of_eq_some urlSafe, record.1 read⟩
  · intro h
    obtain ⟨bs', urlSafe⟩ := Option.isSome_iff_exists.1 h.urlSafe
    obtain rfl := eq_of_cursorBytes? held urlSafe
    rw [cursorRecord?, urlSafe, Option.bind_some]
    exact record.2 h.spelled

/-! ## The end of the text -/

/-- The text of an object ends with a brace and blanks. -/
theorem exists_brace (object : Value.ofBytes? bs = some (.object raw)) {text : String}
    (written : Text.ofBytes? bs = some text) :
    ∃ front blanks, text.toList = front ++ '}' :: blanks ∧
      ∀ c ∈ blanks, Json.isSpace c = true := by
  obtain ⟨front, blanks, rfl, blank⟩ := Json.endsWith_of_object object
  have ascii : ∀ c ∈ '}' :: blanks.map Json.ascii, c.toNat < 128 := by
    intro c hc
    rcases List.mem_cons.1 hc with rfl | later
    · decide
    · obtain ⟨b, hb, rfl⟩ := List.mem_map.1 later
      rcases Json.isSpace_iff.1 (blank b hb) with h | h | h | h <;> rw [h] <;> decide
  have codes : Text.asciiCodes ('}' :: blanks.map Json.ascii) = Json.byteOf '}' :: blanks := by
    have same : (fun c => UInt8.ofNat c.toNat) ∘ Json.ascii = id := funext Json.byteOf_ascii
    rw [Text.asciiCodes, List.map_cons, List.map_map, same, List.map_id]
    rfl
  have bytes := Text.bytes_of_ofBytes? written
  rw [← String.ofList_toList (s := text), ← codes] at bytes
  obtain ⟨init, whole, -⟩ := Text.exists_append_of_bytes ascii bytes
  refine ⟨init, blanks.map Json.ascii, whole, ?_⟩
  intro c hc
  obtain ⟨b, hb, rfl⟩ := List.mem_map.1 hc
  exact blank b hb

/-- The brace stands in the last part. -/
theorem brace_mem_getLast (object : Value.ofBytes? bs = some (.object raw)) {text : String}
    (written : Text.ofBytes? bs = some text) (kind : PageKind)
    (ne : Text.split kind.delimiter text ≠ []) :
    '}' ∈ ((Text.split kind.delimiter text).getLast ne).toList := by
  obtain ⟨front, blanks, whole, blank⟩ := exists_brace object written
  -- no match of the delimiter can reach into the brace and the blanks
  have clear : ∀ c ∈ '}' :: blanks, c ∉ kind.delimiter.toList := by
    intro c hc inside
    have bar := PageKind.eq_of_mem_delimiter c inside
    subst bar
    rcases List.mem_cons.1 hc with same | later
    · exact absurd same (by decide)
    · exact absurd (blank _ later) (by decide)
  have ending : '}' :: blanks <:+ text.toList := ⟨front, whole.symm⟩
  have last := Text.suffix_getLast_cut (Text.toList_ne_nil kind.delimiter_ne_empty) clear ending
  simp only [Text.split_eq kind.delimiter_ne_empty, List.getLast_map, String.toList_ofList]
  exact last.subset List.mem_cons_self

end Object

/-! ## The parts of the text -/

theorem readTotal_of_brace {part : String} (brace : '}' ∈ part.toList) :
    readTotal part = .error (.invalidNumber .total (Text.trim part)) := by
  have kept : '}' ∈ (Text.trim part).toList := by
    rw [Text.trim, String.toList_ofList]
    exact Text.mem_trimChars brace (by decide)
  have filled : Text.trim part ≠ "" := by
    intro empty
    rw [empty] at kept
    cases kept
  have noWord : ¬ Text.sameFold (Text.trim part) "null" = true := by
    intro word
    exact absurd (isAlpha_of_sameFold_null word kept) (by decide)
  simp only [readTotal, Text.natural64?]
  rw [if_neg (not_or.2 ⟨filled, noWord⟩), Text.natural?_eq_none kept (by decide) (by decide)]

theorem readPageSize_of_brace {part : String} (brace : '}' ∈ part.toList) :
    readPageSize part = .error (.invalidNumber .pageSize (Text.trim part)) := by
  have kept : '}' ∈ (Text.trim part).toList := by
    rw [Text.trim, String.toList_ofList]
    exact Text.mem_trimChars brace (by decide)
  simp only [readPageSize, Text.integer32?]
  rw [Text.integer?_eq_none kept (by decide) (by decide) (by decide)]

/-- Counts that end with a brace are only read in a catalog cursor, and only in front of the part
with the brace. -/
theorem readCounts_eq_ok_iff {kind : PageKind} {parts : List String} (ne : parts ≠ [])
    (brace : '}' ∈ (parts.getLast ne).toList) {counts : Option UInt64 × Int32} :
    readCounts kind parts = .ok counts ↔
      kind = .catalog ∧ ∃ total size more, parts = total :: size :: more ∧ more ≠ [] ∧
        readTotal total = .ok counts.1 ∧ readPageSize size = .ok counts.2 := by
  constructor
  · intro h
    -- one case for each shape that the reader tells apart; the brace is in the last part of each
    match kind, parts with
    | .values, [size] =>
      have last : '}' ∈ size.toList := brace
      rw [readCounts, readPageSize_of_brace last] at h
      cases h
    | .values, total :: size :: more =>
      rw [readCounts_values (List.cons_ne_nil _ _), counts_eq_ok_iff] at h
      rw [List.getLast_cons_cons] at brace
      rw [readPageSize_of_brace brace] at h
      cases h.2
    | .catalog, [total] =>
      have last : '}' ∈ total.toList := brace
      rw [readCounts, readTotal_of_brace last] at h
      cases h
    | .catalog, total :: size :: more =>
      rw [readCounts, counts_eq_ok_iff] at h
      refine ⟨rfl, total, size, more, rfl, ?_, h⟩
      rintro rfl
      have last : '}' ∈ size.toList := brace
      rw [readPageSize_of_brace last] at h
      cases h.2
  · rintro ⟨rfl, total, size, more, rfl, -, known⟩
    rw [readCounts, counts_eq_ok_iff]
    exact known

/-- The tokens that the text of an object can be taken for. -/
inductive TakenFor (kind : PageKind) (text : String) : PageToken → Prop
  /-- The delimiter does not stand in the text, so that all of it is a resume key. -/
  | key (apart : ¬ kind.delimiter.toList <:+: text.toList) : TakenFor kind text ⟨kind, text, none, 0⟩
  /-- A catalog cursor with the counts in front of the last part. -/
  | counts {key total size : String} {more : List String} {n : Option UInt64} {k : Int32}
      (catalog : kind = .catalog)
      (parts : Text.split kind.delimiter text = key :: total :: size :: more) (behind : more ≠ [])
      (known : readTotal total = .ok n) (sized : readPageSize size = .ok k) :
      TakenFor kind text ⟨kind, key, n, k⟩

/-- What the text of an object is taken for: a resume key or, in a catalog cursor, counts in front
of the part with the brace. -/
theorem ofParts_split_eq_ok_iff {bs : List UInt8} {raw : List (List UInt8 × Value)}
    (object : Value.ofBytes? bs = some (.object raw)) {text : String}
    (written : Text.ofBytes? bs = some text) {kind : PageKind} {t : PageToken} :
    PageToken.ofParts kind (Text.split kind.delimiter text) = .ok t ↔ TakenFor kind text t := by
  have parts := Text.split_eq kind.delimiter_ne_empty text
  by_cases inside : kind.delimiter.toList <:+: text.toList
  · obtain ⟨key, rest, split, ne⟩ :
        ∃ key rest, Text.split kind.delimiter text = key :: rest ∧ rest ≠ [] := by
      have several := Text.two_le_length_cut (Text.toList_ne_nil kind.delimiter_ne_empty) inside
      rw [← List.length_map (f := String.ofList), ← parts] at several
      match Text.split kind.delimiter text, several with
      | key :: next :: rest, _ => exact ⟨key, next :: rest, rfl, List.cons_ne_nil _ _⟩
    have brace : '}' ∈ (rest.getLast ne).toList := by
      have last := brace_mem_getLast object written kind
      simp only [split] at last
      have here := last (List.cons_ne_nil _ _)
      rwa [List.getLast_cons ne] at here
    rw [split, ofParts_eq_ok_iff, readCounts_eq_ok_iff ne brace]
    constructor
    · rintro ⟨rfl, rfl, catalog, total, size, more, rfl, behind, known, sized⟩
      exact .counts catalog split behind known sized
    · intro h
      cases h with
      | key apart => exact absurd inside apart
      | counts catalog parts behind known sized =>
        obtain ⟨rfl, rfl⟩ := List.cons.inj (split.symm.trans parts)
        exact ⟨rfl, rfl, catalog, _, _, _, rfl, behind, known, sized⟩
  · have whole : Text.split kind.delimiter text = [text] := by
      rw [parts, Text.cut_eq_singleton inside, List.map_singleton, String.ofList_toList]
    rw [whole, ofParts_eq_ok_iff]
    constructor
    · rintro ⟨rfl, rfl, none⟩
      cases t
      cases none
      exact .key inside
    · intro h
      cases h with
      | key apart => exact ⟨rfl, rfl, by cases kind <;> rfl⟩
      | counts catalog parts behind known sized =>
        rw [whole] at parts
        cases parts

/-! ## Cursors -/

/-- No field `v` of an object holds another version than the one that is read. -/
def NoOtherVersion (raw : List (List UInt8 × Value)) : Prop :=
  ∀ field ∈ raw, Json.unquote? field.1 = some "v" → field.2 = .number (some recordVersion.toNat)

namespace PageToken

/-- What a cursor with an object in it is read as, unless it is too long.  A record is taken as it
is or refused.  Any other object is taken for the parts of a delimited cursor; what becomes of one
that names another version is not said here. -/
theorem decode_of_object {cursor : String} {bs : List UInt8} {raw : List (List UInt8 × Value)}
    (held : cursorBytes? (Text.trim cursor) = some bs)
    (object : Value.ofBytes? bs = some (.object raw)) (kind : PageKind) :
    (maxCursorLength < (Text.trim cursor).utf8ByteSize →
      decode cursor kind = .error (.tooLong (Text.trim cursor).utf8ByteSize maxCursorLength)) ∧
    ((Text.trim cursor).utf8ByteSize ≤ maxCursorLength →
      (∀ r, HoldsRecord (Text.trim cursor) raw r →
        decode cursor kind =
          if r.version ≠ recordVersion then .error (.unsupportedVersion r.version.toNat)
          else if r.kind ≠ kind then .error (.wrongKind kind r.kind)
          else .ok ⟨kind, r.key, r.total, r.size⟩) ∧
      ((∀ r, ¬ HoldsRecord (Text.trim cursor) raw r) → NoOtherVersion raw →
        ∀ t, decode cursor kind = .ok t ↔
          ∃ text, Text.ofBytes? bs = some text ∧ TakenFor kind text t)) := by
  have filled : Text.trim cursor ≠ "" := by
    intro empty
    rw [empty] at held
    cases held
    cases object
  refine ⟨fun long => decode_of_long long kind, fun short => ⟨?_, ?_⟩⟩
  · intro r record
    simp only [decode, checkedCursor_of_le filled short, bind, Except.bind,
      (cursorRecord?_eq_some_iff held object).2 record]
    rfl
  · intro noRecord _ t
    have none : cursorRecord? (Text.trim cursor) = none := by
      rw [Option.eq_none_iff_forall_ne_some]
      intro r record
      exact noRecord r ((cursorRecord?_eq_some_iff held object).1 record)
    rw [decode_of_noRecord filled short none held]
    cases written : Text.ofBytes? bs with
    | none => simp
    | some text => simp [ofParts_split_eq_ok_iff object written]

/-! ### A page size that is too large -/

/-- The text of a record, were its page size not one too large. -/
def oversizedText : String :=
  "\x7b\"v\":1,\"kind\":\"catalog\",\"key\":\"SWT/KEYS\",\"size\":2147483648\x7d"

/-- The cursor that holds that text. -/
def oversizedCursor : String :=
  "eyJ2IjoxLCJraW5kIjoiY2F0YWxvZyIsImtleSI6IlNXVC9LRVlTIiwic2l6ZSI6MjE0NzQ4MzY0OH0"

/-- The fields in that text. -/
def oversizedFields : List Json.Field :=
  [PageRecord.integerField "v" 1, PageRecord.textField "kind" "catalog",
    PageRecord.textField "key" "SWT/KEYS", PageRecord.integerField "size" 2147483648]

theorem trim_oversizedCursor : Text.trim oversizedCursor = oversizedCursor := by decide

theorem cursorBytes?_oversizedCursor :
    cursorBytes? oversizedCursor = some (Text.bytes oversizedText) := by decide

theorem ofBytes?_oversizedText :
    Value.ofBytes? (Text.bytes oversizedText)
      = some (.object (oversizedFields.map Json.Field.raw)) := by
  have written : Text.bytes oversizedText = Json.byteOf '{' ::
      ([Json.byteOf ','].intercalate (oversizedFields.map Json.Field.bytes)
        ++ [Json.byteOf '}']) := by decide
  rw [written]
  exact Json.ofBytes?_object _ _

theorem valuesOf_oversizedFields :
    PageRecord.valuesOf "size" (oversizedFields.map fun f => (f.name, f.value))
      = [.number (some 2147483648)] := rfl

theorem not_holdsRecord_oversizedCursor (r : PageRecord) :
    ¬ HoldsRecord oversizedCursor (oversizedFields.map Json.Field.raw) r := by
  intro record
  obtain ⟨fields, same, spelled⟩ := record.spelled
  obtain rfl := Option.some_inj.1 ((PageRecord.namedFields?_raw oversizedFields).symm.trans same)
  have fits := r.size.toInt_lt
  have large := valuesOf_oversizedFields.symm.trans spelled.size
  simp only [List.cons.injEq, Value.number.injEq, Option.some_inj, and_true] at large
  omega

/-- A record is refused for pages of the other kind, and an object that is none is taken for a
resume key. -/
theorem decode_of_object_sample :
    decode "eyJ2IjoxLCJraW5kIjoiY2F0YWxvZyIsImtleSI6IlNXVC9LRVlTIiwic2l6ZSI6MjV9" .values
        = .error (.wrongKind .values .catalog) ∧
      decode oversizedCursor .values = .ok ⟨.values, oversizedText, none, 0⟩ := by
  constructor
  · let t : PageToken := ⟨.catalog, "SWT/KEYS", none, 25⟩
    have cursor : t.encode
        = "eyJ2IjoxLCJraW5kIjoiY2F0YWxvZyIsImtleSI6IlNXVC9LRVlTIiwic2l6ZSI6MjV9" := by decide
    have held : cursorBytes? (Text.trim t.encode) = some t.record.bytes := by
      rw [cursor]
      decide
    have object := t.record.ofBytes?_eq_object
    have short : (Text.trim t.encode).utf8ByteSize ≤ maxCursorLength := by
      rw [cursor]
      decide
    have record := (cursorRecord?_eq_some_iff held object).1
      (t.trim_encode.symm ▸ t.cursorRecord?_encode)
    have read := ((decode_of_object held object .values).2 short).1 t.record record
    rw [cursor] at read
    exact read
  · have held := trim_oversizedCursor.symm ▸ cursorBytes?_oversizedCursor
    have short : (Text.trim oversizedCursor).utf8ByteSize ≤ maxCursorLength := by decide
    have noRecord := trim_oversizedCursor.symm ▸ not_holdsRecord_oversizedCursor
    have oneVersion : NoOtherVersion (oversizedFields.map Json.Field.raw) := by
      intro field hfield named
      obtain ⟨f, hf, rfl⟩ := List.mem_map.1 hfield
      rw [Json.Field.raw, Json.unquote?_escape, Option.some_inj] at named
      simp only [oversizedFields, List.mem_cons, List.not_mem_nil, or_false] at hf
      rcases hf with rfl | rfl | rfl | rfl
      · rfl
      all_goals exact absurd named (by decide)
    have apart : ¬ PageKind.values.delimiter.toList <:+: oversizedText.toList := by
      intro inside
      exact absurd (inside.subset List.mem_cons_self) (by decide)
    exact (((decode_of_object held ofBytes?_oversizedText .values).2 short).2 noRecord oneVersion
      _).2 ⟨oversizedText, Text.ofBytes?_bytes _, .key apart⟩

/-- An object whose page size does not fit is not refused: for pages of its own kind, too, the whole
text becomes a resume key. -/
theorem decode_oversizedCursor :
    ∃ raw fields,
      (cursorBytes? oversizedCursor).bind Value.ofBytes? = some (.object raw) ∧
      PageRecord.namedFields? raw = some fields ∧
      PageRecord.valuesOf "size" fields = [.number (some 2147483648)] ∧
      decode oversizedCursor .catalog = .ok ⟨.catalog, oversizedText, none, 0⟩ := by
  have held := trim_oversizedCursor.symm ▸ cursorBytes?_oversizedCursor
  have noRecord : cursorRecord? (Text.trim oversizedCursor) = none := by
    rw [trim_oversizedCursor, Option.eq_none_iff_forall_ne_some]
    intro r record
    exact not_holdsRecord_oversizedCursor r
      ((cursorRecord?_eq_some_iff cursorBytes?_oversizedCursor ofBytes?_oversizedText).1 record)
  refine ⟨_, _, ?_, PageRecord.namedFields?_raw oversizedFields, valuesOf_oversizedFields, ?_⟩
  · rw [cursorBytes?_oversizedCursor]
    exact ofBytes?_oversizedText
  · rw [decode_of_noRecord (by decide) (by decide) noRecord held, Text.ofBytes?_bytes]
    decide

end PageToken

end HydroArchive
