import Mathlib.Data.List.TakeWhile
import HydroArchive.Json.Value
import HydroArchive.Proofs.Json.Quoted
import HydroArchive.Proofs.Text.Decimal

/-!
# Flat objects are read back

A structured cursor is an object whose fields are texts and integers.  Scanning and building values
are folded into one reader here, so that what is written can be read piece by piece: `readFrom` goes
from one state of the value builder to the next, and each written piece is one step of it.

## Main definitions

* `readFrom` — the state of the value builder after the lexemes of some bytes.
* `Spells` — bytes that stand for a value, whatever mark follows them.

## Main statements

* `spells_quote`, `spells_integer` — texts and integers.
* `ofBytes?_object` — an object with a list of fields.
-/

namespace HydroArchive.Json

/-- The state of the value builder after the lexemes of some bytes. -/
def readFrom (s : List Frame × Focus) (bs : List UInt8) : Option (List Frame × Focus) :=
  (scan .between bs).bind fun ls => ls.foldlM step s

@[simp] theorem readFrom_nil (s : List Frame × Focus) : readFrom s [] = some s := rfl

/-- A lexeme in front is one step of the builder. -/
theorem readFrom_of_scan {s : List Frame × Focus} {l : Lexeme} {bs rest : List UInt8}
    (h : scan .between bs = (scan .between rest).map (l :: ·)) :
    readFrom s bs = (step s l).bind fun t => readFrom t rest := by
  simp only [readFrom, h]
  cases scan .between rest with
  | none => cases step s l <;> rfl
  | some ls => simp [List.foldlM_cons]

theorem ofBytes?_of_readFrom {bs : List UInt8} {v : Value}
    (h : readFrom ([], .value) bs = some ([], .finished v)) : Value.ofBytes? bs = some v := by
  rw [readFrom] at h
  obtain ⟨ls, scanned, built⟩ := Option.bind_eq_some_iff.1 h
  simp [Value.ofBytes?, lexemes?, scanned, Value.ofLexemes?, built]

/-! ## Marks -/

theorem mark?_cases {c : Char} {l : Lexeme} (h : mark? c = some l) :
    isSpace c = false ∧ c ≠ '"' := by
  unfold mark? at h
  split at h
  all_goals first | (cases h; done) | decide

theorem readFrom_mark {s : List Frame × Focus} {m : UInt8} {l : Lexeme} {rest : List UInt8}
    (h : mark? (ascii m) = some l) :
    readFrom s (m :: rest) = (step s l).bind fun t => readFrom t rest := by
  obtain ⟨noSpace, noQuote⟩ := mark?_cases h
  exact readFrom_of_scan (by simp [scan, noSpace, noQuote, h])

/-! ## Values without parts -/

/-- Bytes that are one lexeme with a value of its own, whatever mark follows. -/
def Spells (bs : List UInt8) (v : Value) : Prop :=
  ∀ (frames : List Frame) (m : UInt8) (rest : List UInt8), (mark? (ascii m)).isSome →
    readFrom (frames, .value) (bs ++ m :: rest) = readFrom (complete frames v) (m :: rest)

theorem spells_quote (s : String) : Spells (quote s) (.quoted (escape (Text.bytes s))) := by
  intro frames m rest _
  rw [readFrom_of_scan (scan_quote s (m :: rest))]
  rfl

/-- The characters of words: no blanks, quotes or marks. -/
def isWordChar (c : Char) : Bool :=
  !isSpace c && c != '"' && (mark? c).isNone && decide (c.toNat < 256)

theorem isWordChar_of_isDigit {c : Char} (h : c.isDigit) : isWordChar c = true := by
  have range := Text.toNat_of_isDigit h
  have other : ∀ d : Char, ¬ (48 ≤ d.toNat ∧ d.toNat ≤ 57) → c ≠ d := by
    rintro d hd rfl
    exact hd range
  have noMark : mark? c = none := by
    unfold mark?
    split
    all_goals first | rfl | exact absurd range (by decide)
  simp [isWordChar, isSpace, noMark, other ' ' (by decide), other '\t' (by decide),
    other '\n' (by decide), other '\r' (by decide), other '"' (by decide)]
  omega

/-- The scanner goes on to the mark behind a word. -/
theorem scan_inWord {cs : List Char} (h : ∀ c ∈ cs, isWordChar c = true) {m : UInt8} {mark : Lexeme}
    (hm : mark? (ascii m) = some mark) (w rest : List UInt8) :
    scan (.inWord w) (cs.map byteOf ++ m :: rest)
      = (word? (w.reverse ++ cs.map byteOf)).bind fun l =>
          (scan .between rest).map fun ls => l :: mark :: ls := by
  obtain ⟨noSpace, noQuote⟩ := mark?_cases hm
  induction cs generalizing w with
  | nil =>
    cases hw : word? w.reverse <;> cases hr : scan .between rest <;>
      simp [scan, noSpace, noQuote, hm, hw, hr]
  | cons c cs ih =>
    have word := h c List.mem_cons_self
    simp only [isWordChar, Bool.and_eq_true, Bool.not_eq_true', bne_iff_ne, ne_eq,
      Option.isNone_iff_eq_none, decide_eq_true_eq] at word
    obtain ⟨⟨⟨cSpace, cQuote⟩, cMark⟩, small⟩ := word
    have step := ih (fun d hd => h d (List.mem_cons_of_mem c hd)) (byteOf c :: w)
    simp only [List.map_cons, List.cons_append, scan, ascii_byteOf small, cSpace, cQuote, cMark]
    simpa using step

theorem scan_word {c : Char} {cs : List Char} (h : ∀ d ∈ c :: cs, isWordChar d = true) {m : UInt8}
    (hm : (mark? (ascii m)).isSome) {l : Lexeme} (hl : word? ((c :: cs).map byteOf) = some l)
    (rest : List UInt8) :
    scan .between ((c :: cs).map byteOf ++ m :: rest)
      = (scan .between (m :: rest)).map (l :: ·) := by
  obtain ⟨mark, hm⟩ := Option.isSome_iff_exists.1 hm
  obtain ⟨noSpace, noQuote⟩ := mark?_cases hm
  have word := h c List.mem_cons_self
  simp only [isWordChar, Bool.and_eq_true, Bool.not_eq_true', bne_iff_ne, ne_eq,
    Option.isNone_iff_eq_none, decide_eq_true_eq] at word
  obtain ⟨⟨⟨cSpace, cQuote⟩, cMark⟩, small⟩ := word
  have inside := scan_inWord (fun d hd => h d (List.mem_cons_of_mem c hd)) hm [byteOf c] rest
  simp only [List.map_cons, List.cons_append, scan, ascii_byteOf small, cSpace, cQuote, cMark,
    noSpace, noQuote, hm] at inside hl ⊢
  simp [inside, hl]
  rfl

/-! ## Integers -/

@[simp] theorem magnitude?_decimalChars (n : Nat) :
    magnitude? (Text.decimalChars n) = some (some n) := by
  have isDigit : ∀ c ∈ Text.decimalChars n, c.isDigit = true := fun c =>
    Text.isDigit_of_mem_decimalChars
  have taken : (Text.decimalChars n).takeWhile Char.isDigit = Text.decimalChars n :=
    List.takeWhile_eq_self_iff.2 isDigit
  have dropped : (Text.decimalChars n).dropWhile Char.isDigit = [] :=
    List.dropWhile_eq_nil_iff.2 isDigit
  have ne : (Text.decimalChars n).isEmpty = false := by
    simpa using Text.decimalChars_ne_nil n
  have noZero : ¬ ((Text.decimalChars n).head? = some '0' ∧ (Text.decimalChars n).length ≠ 1) := by
    rintro ⟨zero, long⟩
    rw [Text.decimalChars_head_eq_zero zero] at long
    exact long rfl
  have value : digitsValue (Text.decimalChars n) = n := Nat.ofDigitChars_ten_toDigits
  simp [magnitude?, taken, dropped, ne, noZero, value, dropFraction?, dropExponent?]

@[simp] theorem number?_integerText (n : Int) : number? (Text.integerText n) = some (.number (some n)) := by
  rw [Text.integerText]
  split
  case isTrue neg =>
    have ne : n.natAbs ≠ 0 := by omega
    have value : -(n.natAbs : Int) = n := by omega
    generalize n.natAbs = k at ne value ⊢
    simp [number?, Option.filter, ne, value]
  case isFalse pos =>
    have value : (n.natAbs : Int) = n := by omega
    have isDigit : ∀ c ∈ Text.decimalChars n.natAbs, c.isDigit = true := fun c =>
      Text.isDigit_of_mem_decimalChars
    have magnitude := magnitude?_decimalChars n.natAbs
    cases hcs : Text.decimalChars n.natAbs with
    | nil => exact absurd hcs (Text.decimalChars_ne_nil _)
    | cons c cs =>
      rw [hcs] at isDigit magnitude
      have : c ≠ '-' := by
        rintro rfl
        exact absurd (isDigit _ List.mem_cons_self) (by decide)
      simp [number?, this, magnitude, value]

theorem isWordChar_of_mem_integerText {n : Int} {c : Char} (h : c ∈ Text.integerText n) :
    isWordChar c = true := by
  rw [Text.integerText] at h
  split at h
  · rcases List.mem_cons.1 h with rfl | h
    · decide
    · exact isWordChar_of_isDigit (Text.isDigit_of_mem_decimalChars h)
  · exact isWordChar_of_isDigit (Text.isDigit_of_mem_decimalChars h)

theorem map_ascii_byteOf {cs : List Char} (h : ∀ c ∈ cs, isWordChar c = true) :
    (cs.map byteOf).map ascii = cs := by
  rw [List.map_map]
  refine (List.map_congr_left fun c hc => ?_).trans (List.map_id cs)
  have word := h c hc
  simp only [isWordChar, Bool.and_eq_true, decide_eq_true_eq] at word
  exact ascii_byteOf word.2

@[simp] theorem word?_integerText (n : Int) :
    word? ((Text.integerText n).map byteOf) = some (.number (some n)) := by
  have number := number?_integerText n
  rw [word?, map_ascii_byteOf fun c => isWordChar_of_mem_integerText]
  -- a name would not read as a number
  have other : ∀ cs, number? cs = none → Text.integerText n ≠ cs := by
    rintro cs none rfl
    rw [number] at none
    cases none
  rw [if_neg (other _ (by decide)), if_neg (other _ (by decide)), if_neg (other _ (by decide)),
    number]

theorem spells_integer (n : Int) :
    Spells ((Text.integerText n).map byteOf) (.number (some n)) := by
  intro frames m rest hm
  have isWord : ∀ c ∈ Text.integerText n, isWordChar c = true := fun c =>
    isWordChar_of_mem_integerText
  have word := word?_integerText n
  cases hcs : Text.integerText n with
  | nil => exact absurd hcs (Text.integerText_ne_nil n)
  | cons c cs =>
    rw [hcs] at isWord word
    rw [readFrom_of_scan (scan_word isWord hm word rest)]
    rfl

/-! ## Objects -/

/-- A field to be written: its name, its written value and the value. -/
structure Field where
  name : String
  written : List UInt8
  value : Value
  spells : Spells written value

def Field.raw (f : Field) : List UInt8 × Value := (escape (Text.bytes f.name), f.value)

def Field.bytes (f : Field) : List UInt8 := quote f.name ++ byteOf ':' :: f.written

theorem readFrom_field {s : List Frame × Focus} {done : List (List UInt8 × Value)} (f : Field)
    (hs : ∀ name, step s (.quoted name) = some ([], .fieldName done name)) {m : UInt8}
    (hm : (mark? (ascii m)).isSome) (rest : List UInt8) :
    readFrom s (f.bytes ++ m :: rest) = readFrom ([], .fieldAfter (f.raw :: done)) (m :: rest) := by
  have colon : mark? (ascii (byteOf ':')) = some .colon := by decide
  simp only [Field.bytes, List.append_assoc, List.cons_append]
  rw [readFrom_of_scan (scan_quote f.name _), hs, Option.bind_some, readFrom_mark colon, step,
    Option.bind_some, f.spells _ _ _ hm]
  rfl

/-- The fields and the closing brace, from the start of the object or from a comma on. -/
theorem readFrom_fields (f : Field) (fs : List Field) {s : List Frame × Focus}
    {done : List (List UInt8 × Value)}
    (hs : ∀ name, step s (.quoted name) = some ([], .fieldName done name)) :
    readFrom s ([byteOf ','].intercalate ((f :: fs).map Field.bytes) ++ [byteOf '}'])
      = some ([], .finished (.object (done.reverse ++ (f :: fs).map Field.raw))) := by
  have comma : mark? (ascii (byteOf ',')) = some .comma := by decide
  have close : mark? (ascii (byteOf '}')) = some .closeObject := by decide
  induction fs generalizing f s done with
  | nil =>
    simp only [List.map_cons, List.map_nil, List.intercalate_singleton]
    rw [readFrom_field f hs (by rw [close]; rfl), readFrom_mark close]
    simp [step, complete]
  | cons g gs ih =>
    have next := ih g (s := ([], .fieldStart (f.raw :: done))) fun _ => rfl
    simp only [List.map_cons, List.intercalate_cons_cons, List.append_assoc, List.cons_append,
      List.nil_append] at next ⊢
    rw [readFrom_field f hs (by rw [comma]; rfl), readFrom_mark comma, step, Option.bind_some, next]
    simp

/-- An object is read back from its written fields. -/
theorem ofBytes?_object (f : Field) (fs : List Field) :
    Value.ofBytes? (byteOf '{' :: ([byteOf ','].intercalate ((f :: fs).map Field.bytes)
      ++ [byteOf '}'])) = some (.object ((f :: fs).map Field.raw)) := by
  have start : mark? (ascii (byteOf '{')) = some .openObject := by decide
  refine ofBytes?_of_readFrom ?_
  rw [readFrom_mark start, step, startValue, Option.bind_some, readFrom_fields f fs fun _ => rfl]
  rfl

end HydroArchive.Json
