/-!
# Base 64

The two written forms of bytes that cursors use: the standard alphabet with padding, and the
URL-safe alphabet without.  Three bytes are written as four digits.  Reading is strict, so that no
two texts of one form stand for the same bytes: foreign characters and blanks are refused, padding
must be exactly what the form asks for, and the bits that a last digit does not need must be zero.

## Main definitions

* `Form` — an alphabet and whether texts are padded; `standard` and `urlSafe`.
* `encode`, `decode?` — bytes to text and back.
-/

namespace HydroArchive.Base64

/-- A written form: the digits 62 and 63, and whether a last group is filled up with `=`. -/
structure Form where
  digit62 : Char
  digit63 : Char
  padded : Bool

/-- The standard alphabet with padding. -/
def standard : Form := ⟨'+', '/', true⟩

/-- The alphabet that is safe in a URL, without padding. -/
def urlSafe : Form := ⟨'-', '_', false⟩

/-- The character of a digit; only the digit modulo 64 counts. -/
def Form.digit (f : Form) (n : Nat) : Char :=
  let n := n % 64
  if n < 26 then Char.ofNat ('A'.toNat + n)
  else if n < 52 then Char.ofNat ('a'.toNat + (n - 26))
  else if n < 62 then Char.ofNat ('0'.toNat + (n - 52))
  else if n = 62 then f.digit62
  else f.digit63

/-- The digit that a character stands for. -/
def Form.value? (f : Form) (c : Char) : Option Nat :=
  if 'A' ≤ c ∧ c ≤ 'Z' then some (c.toNat - 'A'.toNat)
  else if 'a' ≤ c ∧ c ≤ 'z' then some (c.toNat - 'a'.toNat + 26)
  else if '0' ≤ c ∧ c ≤ '9' then some (c.toNat - '0'.toNat + 52)
  else if c = f.digit62 then some 62
  else if c = f.digit63 then some 63
  else none

/-- The padding of a last group that lacks `n` digits. -/
def Form.padding (f : Form) (n : Nat) : List Char :=
  if f.padded then List.replicate n '=' else []

def encode (f : Form) : List UInt8 → List Char
  | [] => []
  | [a] =>
    [f.digit (a.toNat / 4), f.digit (a.toNat % 4 * 16)] ++ f.padding 2
  | [a, b] =>
    [f.digit (a.toNat / 4), f.digit (a.toNat % 4 * 16 + b.toNat / 16),
      f.digit (b.toNat % 16 * 4)] ++ f.padding 1
  | a :: b :: c :: rest =>
    f.digit (a.toNat / 4) :: f.digit (a.toNat % 4 * 16 + b.toNat / 16) ::
      f.digit (b.toNat % 16 * 4 + c.toNat / 64) :: f.digit (c.toNat % 64) :: encode f rest

/-- The byte of a last group of two digits, whose last four bits must be zero. -/
def lastByte? (f : Form) (w x : Char) : Option (List UInt8) := do
  let p ← f.value? w
  let q ← f.value? x
  if q % 16 = 0 then some [UInt8.ofNat (p * 4 + q / 16)] else none

/-- The bytes of a last group of three digits, whose last two bits must be zero. -/
def lastTwoBytes? (f : Form) (w x y : Char) : Option (List UInt8) := do
  let p ← f.value? w
  let q ← f.value? x
  let r ← f.value? y
  if r % 4 = 0 then some [UInt8.ofNat (p * 4 + q / 16), UInt8.ofNat (q % 16 * 16 + r / 4)]
  else none

def groupBytes? (f : Form) (w x y z : Char) : Option (List UInt8) := do
  let p ← f.value? w
  let q ← f.value? x
  let r ← f.value? y
  let s ← f.value? z
  some [UInt8.ofNat (p * 4 + q / 16), UInt8.ofNat (q % 16 * 16 + r / 4),
    UInt8.ofNat (r % 4 * 64 + s)]

/-- The bytes that a text stands for, if it is written in the form. -/
def decode? (f : Form) : List Char → Option (List UInt8)
  | [] => some []
  | [w, x] => if f.padded then none else lastByte? f w x
  | [w, x, y] => if f.padded then none else lastTwoBytes? f w x y
  | w :: x :: y :: z :: rest =>
    if f.padded && rest.isEmpty && z == '=' then
      if y = '=' then lastByte? f w x else lastTwoBytes? f w x y
    else do
      let group ← groupBytes? f w x y z
      let more ← decode? f rest
      some (group ++ more)
  | _ => none

end HydroArchive.Base64
