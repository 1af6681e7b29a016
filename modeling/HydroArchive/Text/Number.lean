/-!
# Integers in decimal

Integers appear in cursors, parameters, environment variables and settings.  All of them are read by
the same rule: an optional sign, then ASCII digits only, at least one, and a value within the bounds
of the field.  Blanks and underscores are not skipped.
-/

namespace HydroArchive.Text

/-! ## Bounds -/

abbrev maxNatural32 : Nat := 4294967295

abbrev maxNatural64 : Nat := 18446744073709551615

abbrev minInteger32 : Int := -2147483648

abbrev maxInteger32 : Int := 2147483647

abbrev minInteger64 : Int := -9223372036854775808

abbrev maxInteger64 : Int := 9223372036854775807

/-! ## Reading -/

def digit? (c : Char) : Option Nat :=
  if '0' ≤ c ∧ c ≤ '9' then some (c.toNat - '0'.toNat) else none

/-- The number that digits continue: the leading part has the value `n`. -/
def digitsFrom? (n : Nat) : List Char → Option Nat
  | [] => some n
  | c :: cs => (digit? c).bind fun d => digitsFrom? (10 * n + d) cs

/-- The number written by a non-empty list of digits. -/
def digits? : List Char → Option Nat
  | [] => none
  | cs => digitsFrom? 0 cs

/-- The number written by digits, with an optional `+` in front. -/
def naturalChars? : List Char → Option Nat
  | '+' :: cs => digits? cs
  | cs => digits? cs

/-- The integer written by digits with an optional sign in front. -/
def integerChars? : List Char → Option Int
  | '-' :: cs => (digits? cs).map fun n => -(n : Int)
  | cs => (naturalChars? cs).map fun n => (n : Int)

/-- Reads a number of at most `max`.  A minus sign is refused, also before zero. -/
def natural? (max : Nat) (s : String) : Option Nat :=
  (naturalChars? s.toList).filter fun n => n ≤ max

/-- Reads an integer between `min` and `max`. -/
def integer? (min max : Int) (s : String) : Option Int :=
  (integerChars? s.toList).filter fun n => min ≤ n ∧ n ≤ max

def natural64? (s : String) : Option Nat := natural? maxNatural64 s

def integer32? (s : String) : Option Int := integer? minInteger32 maxInteger32 s

def integer64? (s : String) : Option Int := integer? minInteger64 maxInteger64 s

/-! ## Writing -/

def decimalChars (n : Nat) : List Char := Nat.toDigits 10 n

/-- The decimal digits of an integer, after a minus sign when it is negative. -/
def integerText (n : Int) : List Char :=
  if n < 0 then '-' :: decimalChars n.natAbs else decimalChars n.natAbs

/-- The decimal digits of `n`, with zeros in front up to a width. -/
def padded (width n : Nat) : List Char :=
  List.replicate (width - (decimalChars n).length) '0' ++ decimalChars n

end HydroArchive.Text
