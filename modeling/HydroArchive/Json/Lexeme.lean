/-!
# JSON lexemes

Structured cursors are JSON records.  A cursor comes from outside, so the record is read from bytes
that need not be a text at all: what stands between two quotes is kept as it was written, and is
only turned into a text where the record uses it.

## Main definitions

* `Lexeme` — marks, scalars and quoted bytes.
* `lexemes?` — the lexemes of a list of bytes; blanks between them are skipped.
-/

namespace HydroArchive.Json

/-- A mark, a scalar, or the bytes between two quotes as they were written. -/
inductive Lexeme where
  | openObject
  | closeObject
  | openArray
  | closeArray
  | colon
  | comma
  | null
  | bool (value : Bool)
  /-- A number; its value is kept only when it is written as an integer. -/
  | number (value : Option Int)
  | quoted (raw : List UInt8)
  deriving DecidableEq

/-- A byte as the ASCII character it stands for. -/
def ascii (b : UInt8) : Char := Char.ofNat b.toNat

/-- Space, tab, line feed and carriage return separate lexemes. -/
def isSpace (c : Char) : Bool := c == ' ' || c == '\t' || c == '\n' || c == '\r'

def mark? : Char → Option Lexeme
  | '{' => some .openObject
  | '}' => some .closeObject
  | '[' => some .openArray
  | ']' => some .closeArray
  | ':' => some .colon
  | ',' => some .comma
  | _ => none

/-! ## Numbers -/

/-- Nothing, or a point and at least one digit: gives what follows. -/
def dropFraction? : List Char → Option (List Char)
  | '.' :: cs =>
    if (cs.takeWhile Char.isDigit).isEmpty then none else some (cs.dropWhile Char.isDigit)
  | cs => some cs

/-- An exponent's sign, if it has one. -/
def dropSign : List Char → List Char
  | '+' :: cs => cs
  | '-' :: cs => cs
  | cs => cs

/-- Nothing, or an exponent: gives what follows. -/
def dropExponent? : List Char → Option (List Char)
  | 'e' :: cs => dropDigits? (dropSign cs)
  | 'E' :: cs => dropDigits? (dropSign cs)
  | cs => some cs
where
  /-- At least one digit. -/
  dropDigits? (cs : List Char) : Option (List Char) :=
    if (cs.takeWhile Char.isDigit).isEmpty then none else some (cs.dropWhile Char.isDigit)

def digitsValue (cs : List Char) : Nat :=
  cs.foldl (fun n c => 10 * n + (c.toNat - '0'.toNat)) 0

/-- A number without its sign: digits without a leading zero, then a fraction and an exponent.  The
value is given when there is neither fraction nor exponent. -/
def magnitude? (cs : List Char) : Option (Option Nat) := do
  let digits := cs.takeWhile Char.isDigit
  let rest := cs.dropWhile Char.isDigit
  if digits.isEmpty then none
  if digits.head? = some '0' ∧ digits.length ≠ 1 then none
  let tail ← dropFraction? rest
  let tail ← dropExponent? tail
  if tail.isEmpty then some (if rest.isEmpty then some (digitsValue digits) else none) else none

def number? : List Char → Option Lexeme
  | '-' :: cs => (magnitude? cs).map fun n =>
    .number ((n.filter fun n => n ≠ 0).map fun n => -(n : Int))
  | cs => (magnitude? cs).map fun n => .number (n.map fun n => (n : Int))

/-- The lexeme of a word: a name or a number. -/
def word? (bs : List UInt8) : Option Lexeme :=
  let cs := bs.map ascii
  if cs = ['n', 'u', 'l', 'l'] then some .null
  else if cs = ['t', 'r', 'u', 'e'] then some (.bool true)
  else if cs = ['f', 'a', 'l', 's', 'e'] then some (.bool false)
  else number? cs

/-! ## Scanning -/

/-- Where the scanner stands.  What it has read of a word or of quoted bytes is kept in reverse. -/
inductive Scan where
  | between
  | inWord (read : List UInt8)
  | inQuotes (read : List UInt8)
  | inEscape (read : List UInt8)
  /-- Inside the digits of a `\u` escape, with so many still to come. -/
  | inCode (digits : Nat) (read : List UInt8)

/-- The characters that may follow a backslash, apart from `u`. -/
def isEscapeLetter (c : Char) : Bool :=
  c == '"' || c == '\\' || c == '/' || c == 'b' || c == 'f' || c == 'n' || c == 'r' || c == 't'

def isHexDigit (c : Char) : Bool :=
  c.isDigit || ('a' ≤ c && c ≤ 'f') || ('A' ≤ c && c ≤ 'F')

/-- The lexemes of the bytes, from a place of the scanner on. -/
def scan : Scan → List UInt8 → Option (List Lexeme)
  | .between, [] => some []
  | .inWord w, [] => (word? w.reverse).map fun l => [l]
  | _, [] => none
  | .between, b :: bs =>
    if isSpace (ascii b) then scan .between bs
    else if ascii b = '"' then scan (.inQuotes []) bs
    else match mark? (ascii b) with
      | some m => (scan .between bs).map (m :: ·)
      | none => scan (.inWord [b]) bs
  | .inWord w, b :: bs =>
    if isSpace (ascii b) then do return (← word? w.reverse) :: (← scan .between bs)
    else if ascii b = '"' then do return (← word? w.reverse) :: (← scan (.inQuotes []) bs)
    else match mark? (ascii b) with
      | some m => do return (← word? w.reverse) :: m :: (← scan .between bs)
      | none => scan (.inWord (b :: w)) bs
  | .inQuotes w, b :: bs =>
    if ascii b = '"' then (scan .between bs).map (.quoted w.reverse :: ·)
    else if ascii b = '\\' then scan (.inEscape (b :: w)) bs
    else if b < 0x20 then none
    else scan (.inQuotes (b :: w)) bs
  | .inEscape w, b :: bs =>
    if isEscapeLetter (ascii b) then scan (.inQuotes (b :: w)) bs
    else if ascii b = 'u' then scan (.inCode 4 (b :: w)) bs
    else none
  | .inCode digits w, b :: bs =>
    if isHexDigit (ascii b) then
      if digits ≤ 1 then scan (.inQuotes (b :: w)) bs else scan (.inCode (digits - 1) (b :: w)) bs
    else none

def lexemes? (bs : List UInt8) : Option (List Lexeme) := scan .between bs

end HydroArchive.Json
