import HydroArchive.Json.Lexeme
import HydroArchive.Text.Utf8

/-!
# Quoted text

The bytes between the quotes of a JSON string.  Writing escapes the quote, the backslash and the
control characters, and leaves every other byte alone.  Reading undoes every escape that JSON
allows; a surrogate escape counts only as half of a pair.

## Main definitions

* `quote` — the bytes of a text between quotes.
* `unquote?` — the text that quoted bytes stand for.
-/

namespace HydroArchive.Json

def byteOf (c : Char) : UInt8 := UInt8.ofNat c.toNat

def hexDigit (n : Nat) : UInt8 :=
  if n < 10 then UInt8.ofNat ('0'.toNat + n) else UInt8.ofNat ('a'.toNat + (n - 10))

/-- The written form of one byte of a text. -/
def escapeByte (b : UInt8) : List UInt8 :=
  match ascii b with
  | '"' => [byteOf '\\', byteOf '"']
  | '\\' => [byteOf '\\', byteOf '\\']
  | '\n' => [byteOf '\\', byteOf 'n']
  | '\r' => [byteOf '\\', byteOf 'r']
  | '\t' => [byteOf '\\', byteOf 't']
  | _ =>
    if b = 0x08 then [byteOf '\\', byteOf 'b']
    else if b = 0x0C then [byteOf '\\', byteOf 'f']
    else if b < 0x20 then
      [byteOf '\\', byteOf 'u', byteOf '0', byteOf '0', hexDigit (b.toNat / 16),
        hexDigit (b.toNat % 16)]
    else [b]

def escape (bs : List UInt8) : List UInt8 := bs.flatMap escapeByte

def quote (s : String) : List UInt8 :=
  byteOf '"' :: (escape (Text.bytes s) ++ [byteOf '"'])

def hexValue? (b : UInt8) : Option Nat :=
  let c := ascii b
  if c.isDigit then some (c.toNat - '0'.toNat)
  else if 'a' ≤ c ∧ c ≤ 'f' then some (c.toNat - 'a'.toNat + 10)
  else if 'A' ≤ c ∧ c ≤ 'F' then some (c.toNat - 'A'.toNat + 10)
  else none

/-- The number that four hexadecimal digits write. -/
def code? (a b c d : UInt8) : Option Nat := do
  return (((← hexValue? a) * 16 + (← hexValue? b)) * 16 + (← hexValue? c)) * 16 + (← hexValue? d)

/-- Whether a number is the first half of a surrogate pair. -/
def isHighSurrogate (n : Nat) : Bool := 0xD800 ≤ n && n < 0xDC00

def isLowSurrogate (n : Nat) : Bool := 0xDC00 ≤ n && n < 0xE000

def codeBytes (n : Nat) : List UInt8 := Text.bytes (String.singleton (Char.ofNat n))

/-- The byte that a one-letter escape stands for. -/
def letterByte? (b : UInt8) : Option UInt8 :=
  match ascii b with
  | '"' => some (byteOf '"')
  | '\\' => some (byteOf '\\')
  | '/' => some (byteOf '/')
  | 'b' => some 0x08
  | 'f' => some 0x0C
  | 'n' => some (byteOf '\n')
  | 'r' => some (byteOf '\r')
  | 't' => some (byteOf '\t')
  | _ => none

/-- The bytes that written bytes stand for; `high` is the first half of a surrogate pair whose
second half must come next. -/
def unescapeFrom? (high : Option Nat) : List UInt8 → Option (List UInt8)
  | [] => if high.isSome then none else some []
  | b :: bs =>
    if b ≠ byteOf '\\' then
      if high.isSome then none else (unescapeFrom? none bs).map (b :: ·)
    else match bs with
      | [] => none
      | e :: rest =>
        if e ≠ byteOf 'u' then do
          if high.isSome then none
          return (← letterByte? e) :: (← unescapeFrom? none rest)
        else match rest with
          | p :: q :: r :: s :: rest => do
            let n ← code? p q r s
            match high with
            | some h =>
              if isLowSurrogate n then
                return codeBytes (0x10000 + (h - 0xD800) * 0x400 + (n - 0xDC00))
                  ++ (← unescapeFrom? none rest)
              else none
            | none =>
              if isHighSurrogate n then unescapeFrom? (some n) rest
              else if isLowSurrogate n then none
              else return codeBytes n ++ (← unescapeFrom? none rest)
          | _ => none

/-- The text that the bytes between two quotes stand for. -/
def unquote? (raw : List UInt8) : Option String :=
  (unescapeFrom? none raw).bind Text.ofBytes?

end HydroArchive.Json
