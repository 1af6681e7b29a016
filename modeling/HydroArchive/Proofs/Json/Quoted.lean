import HydroArchive.Json.Lexeme
import HydroArchive.Json.Quoted

/-!
# Quoted text is read back

Every text survives quoting: the scanner takes the written bytes as one lexeme, whatever follows,
and unquoting its raw bytes gives the text again.  Both go byte by byte, because escaping does.

## Main statements

* `scan_quote` — a quoted text is one lexeme.
* `unquote?_escape` — its raw bytes stand for the text.
-/

namespace HydroArchive.Json

/-! ## Bytes and characters -/

theorem ascii_byteOf {c : Char} (h : c.toNat < 256) : ascii (byteOf c) = c := by
  rw [ascii, byteOf, UInt8.toNat_ofNat', Nat.mod_eq_of_lt h, Char.ofNat_toNat]

@[simp] theorem byteOf_ascii (b : UInt8) : byteOf (ascii b) = b := by
  have small : b.toNat < 256 := b.toNat_lt
  have valid : b.toNat.isValidChar := Or.inl (by omega)
  have kept : (Char.ofNat b.toNat).toNat = b.toNat := by
    rw [Char.ofNat, dif_pos valid]
    exact UInt32.toNat_ofNatLT
  rw [byteOf, ascii, kept, UInt8.ofNat_toNat]

theorem eq_byteOf {b : UInt8} {c : Char} (h : ascii b = c) : b = byteOf c := by
  rw [← h, byteOf_ascii]

theorem isHexDigit_hexDigit : ∀ n < 16, isHexDigit (ascii (hexDigit n)) = true := by decide

theorem hexValue?_hexDigit : ∀ n < 16, hexValue? (hexDigit n) = some n := by decide

theorem codeBytes_control : ∀ n < 32, codeBytes n = [UInt8.ofNat n] := by decide

/-! ## The forms of an escaped byte -/

/-- A byte is written as a backslash and a letter, as a code, or as itself. -/
inductive EscapedAs (b : UInt8) : List UInt8 → Prop where
  | letter (e : UInt8) (isLetter : isEscapeLetter (ascii e) = true) (ne : e ≠ byteOf 'u')
      (value : letterByte? e = some b) : EscapedAs b [byteOf '\\', e]
  | code (control : b.toNat < 32) : EscapedAs b [byteOf '\\', byteOf 'u', byteOf '0', byteOf '0',
      hexDigit (b.toNat / 16), hexDigit (b.toNat % 16)]
  | plain (noQuote : ascii b ≠ '"') (noEscape : ascii b ≠ '\\') (noControl : ¬ b < 0x20) :
      EscapedAs b [b]

theorem escapedAs_escapeByte (b : UInt8) : EscapedAs b (escapeByte b) := by
  rw [escapeByte]
  split
  · rename_i h; rw [eq_byteOf h]; exact .letter _ (by decide) (by decide) (by decide)
  · rename_i h; rw [eq_byteOf h]; exact .letter _ (by decide) (by decide) (by decide)
  · rename_i h; rw [eq_byteOf h]; exact .letter _ (by decide) (by decide) (by decide)
  · rename_i h; rw [eq_byteOf h]; exact .letter _ (by decide) (by decide) (by decide)
  · rename_i h; rw [eq_byteOf h]; exact .letter _ (by decide) (by decide) (by decide)
  · rename_i noQuote noEscape _ _ _
    split
    case isTrue h => rw [h]; exact .letter _ (by decide) (by decide) (by decide)
    case isFalse =>
      split
      case isTrue h => rw [h]; exact .letter _ (by decide) (by decide) (by decide)
      case isFalse =>
        split
        case isTrue h => exact .code (UInt8.lt_iff_toNat_lt.1 h)
        case isFalse h => exact .plain noQuote noEscape h

/-! ## Scanning -/

/-- The scanner takes the written form of a byte into what it has read between the quotes. -/
@[simp] theorem scan_escapeByte (b : UInt8) (w rest : List UInt8) :
    scan (.inQuotes w) (escapeByte b ++ rest)
      = scan (.inQuotes ((escapeByte b).reverse ++ w)) rest := by
  have escape : ascii (byteOf '\\') = '\\' := ascii_byteOf (by decide)
  have form := escapedAs_escapeByte b
  generalize escapeByte b = written at form ⊢
  cases form with
  | letter e isLetter => simp [scan, escape, isLetter]
  | code control =>
    have high := isHexDigit_hexDigit (b.toNat / 16) (by omega)
    have low := isHexDigit_hexDigit (b.toNat % 16) (by omega)
    have mark : ascii (byteOf 'u') = 'u' := ascii_byteOf (by decide)
    have zero : ascii (byteOf '0') = '0' := ascii_byteOf (by decide)
    have noLetter : isEscapeLetter 'u' = false := by decide
    have isHex : isHexDigit '0' = true := by decide
    simp [scan, escape, mark, zero, noLetter, isHex, high, low]
  | plain noQuote noEscape noControl => simp [scan, noQuote, noEscape, noControl]

@[simp] theorem scan_escape (bs w rest : List UInt8) :
    scan (.inQuotes w) (escape bs ++ byteOf '"' :: rest)
      = (scan .between rest).map (.quoted (w.reverse ++ escape bs) :: ·) := by
  have quotes : ascii (byteOf '"') = '"' := ascii_byteOf (by decide)
  induction bs generalizing w with
  | nil => simp [escape, scan, quotes]
  | cons b bs ih =>
    have split : escape (b :: bs) = escapeByte b ++ escape bs := List.flatMap_cons
    rw [split, List.append_assoc, scan_escapeByte, ih, List.reverse_append, List.reverse_reverse,
      List.append_assoc]

/-- A quoted text is one lexeme, whatever follows it. -/
@[simp] theorem scan_quote (s : String) (rest : List UInt8) :
    scan .between (quote s ++ rest)
      = (scan .between rest).map (.quoted (escape (Text.bytes s)) :: ·) := by
  have quotes : ascii (byteOf '"') = '"' := ascii_byteOf (by decide)
  have noSpace : isSpace '"' = false := by decide
  simp only [quote, List.cons_append, List.append_assoc, List.nil_append, scan, quotes, noSpace]
  simp

/-! ## Length -/

theorem length_escapeByte_le (b : UInt8) : (escapeByte b).length ≤ 6 := by
  have form := escapedAs_escapeByte b
  generalize escapeByte b = written at form ⊢
  cases form <;> simp

theorem length_escape_le (bs : List UInt8) : (escape bs).length ≤ 6 * bs.length := by
  induction bs with
  | nil => simp [escape]
  | cons b bs ih =>
    have split : escape (b :: bs) = escapeByte b ++ escape bs := List.flatMap_cons
    have here := length_escapeByte_le b
    rw [split, List.length_append, List.length_cons]
    omega

theorem length_quote_le (s : String) : (quote s).length ≤ 6 * s.utf8ByteSize + 2 := by
  have inside := length_escape_le (Text.bytes s)
  have size : (Text.bytes s).length = s.utf8ByteSize := by simp [Text.bytes]
  rw [size] at inside
  simp only [quote, List.length_cons, List.length_append, List.length_nil]
  omega

/-! ## Unquoting -/

/-- Reading undoes the writing of one byte. -/
@[simp] theorem unescapeFrom?_escapeByte (b : UInt8) (rest : List UInt8) :
    unescapeFrom? none (escapeByte b ++ rest) = (unescapeFrom? none rest).map (b :: ·) := by
  have form := escapedAs_escapeByte b
  generalize escapeByte b = written at form ⊢
  cases form with
  | letter e _ ne value =>
    rw [unescapeFrom?.eq_def]
    cases h : unescapeFrom? none rest <;> simp [ne, value, h]
  | code control =>
    have high := hexValue?_hexDigit (b.toNat / 16) (by omega)
    have low := hexValue?_hexDigit (b.toNat % 16) (by omega)
    have zero : hexValue? (byteOf '0') = some 0 := by decide
    have value : code? (byteOf '0') (byteOf '0') (hexDigit (b.toNat / 16))
        (hexDigit (b.toNat % 16)) = some b.toNat := by
      simp only [code?, zero, high, low, Option.bind_eq_bind, Option.bind_some, Option.pure_def]
      congr 1
      omega
    have notHigh : isHighSurrogate b.toNat = false := by simp [isHighSurrogate]; omega
    have notLow : isLowSurrogate b.toNat = false := by simp [isLowSurrogate]; omega
    rw [List.cons_append, unescapeFrom?.eq_def]
    cases h : unescapeFrom? none rest <;>
      simp [value, notHigh, notLow, codeBytes_control _ control, h]
  | plain _ noEscape _ =>
    have ne : b ≠ byteOf '\\' := by
      rintro rfl
      exact noEscape (ascii_byteOf (by decide))
    rw [List.cons_append, unescapeFrom?.eq_def]
    simp [ne]

theorem unescapeFrom?_escape (bs : List UInt8) : unescapeFrom? none (escape bs) = some bs := by
  induction bs with
  | nil => simp [escape, unescapeFrom?]
  | cons b bs ih =>
    have split : escape (b :: bs) = escapeByte b ++ escape bs := List.flatMap_cons
    rw [split, unescapeFrom?_escapeByte, ih, Option.map_some]

/-- The raw bytes of a quoted text stand for the text. -/
@[simp] theorem unquote?_escape (s : String) : unquote? (escape (Text.bytes s)) = some s := by
  rw [unquote?, unescapeFrom?_escape, Option.bind_some, Text.ofBytes?_bytes]

end HydroArchive.Json
