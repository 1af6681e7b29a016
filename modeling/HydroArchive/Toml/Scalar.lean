import HydroArchive.Text.Number
import HydroArchive.Text.Split
import HydroArchive.Time.Reader

/-!
# TOML scalars

The values of a TOML document that are written without quotes: integers, floats, booleans, and dates
and times.  Only integers are used by the settings, so only they keep their value; the others are
read to be sure that they are well formed.

## Main definitions

* `Scalar` — what a word stands for.
* `scalar?` — reads a word.
-/

namespace HydroArchive.Toml

inductive Scalar where
  | integer (value : Int)
  | float
  | boolean
  | moment
  deriving DecidableEq, Repr

/-! ## Numbers -/

/-- Digits with single underscores between them, at least one digit: the digits. -/
def grouped? (isDigit : Char → Bool) (cs : List Char) : Option (List Char) :=
  let groups := Text.splitChars ['_'] cs
  if groups.all fun g => !g.isEmpty && g.all isDigit then some groups.flatten else none

def digitValue (c : Char) : Nat :=
  if c.isDigit then c.toNat - '0'.toNat else c.toLower.toNat - 'a'.toNat + 10

def isHexDigit (c : Char) : Bool :=
  c.isDigit || ('a' ≤ c && c ≤ 'f') || ('A' ≤ c && c ≤ 'F')

/-- The number that digits of a base write. -/
def valueIn (base : Nat) (cs : List Char) : Nat := cs.foldl (fun n c => base * n + digitValue c) 0

/-- The decimal digits of a whole number; no zero stands in front of others. -/
def wholeDigits? (cs : List Char) : Option (List Char) :=
  if cs.head? = some '0' ∧ cs.length ≠ 1 then none else grouped? Char.isDigit cs

/-- The bounds of integers. -/
def integerFits (n : Int) : Bool := Text.minInteger64 ≤ n && n ≤ Text.maxInteger64

/-- A sign, if there is one, and the rest. -/
def splitSign : List Char → Bool × List Char
  | '+' :: cs => (false, cs)
  | '-' :: cs => (true, cs)
  | cs => (false, cs)

/-- The integer with decimal digits and an optional sign. -/
def decimal? (cs : List Char) : Option Int := do
  let (negative, digits) := splitSign cs
  let n := valueIn 10 (← wholeDigits? digits)
  return if negative then -(n : Int) else n

/-- The integer that a word writes, in base ten, or in base 16, 8 or 2 after a prefix. -/
def integer? (cs : List Char) : Option Int :=
  let value : Option Int := match cs with
    | '0' :: 'x' :: digits => (grouped? isHexDigit digits).map fun ds => (valueIn 16 ds : Int)
    | '0' :: 'o' :: digits =>
      (grouped? (fun c => '0' ≤ c && c ≤ '7') digits).map fun ds => (valueIn 8 ds : Int)
    | '0' :: 'b' :: digits =>
      (grouped? (fun c => c == '0' || c == '1') digits).map fun ds => (valueIn 2 ds : Int)
    | cs => decimal? cs
  value.filter integerFits

/-- The first decimal number that is too large for a float of 64 bits: half a step above the largest
one. -/
def floatBound : Nat := Nat.pow 2 1024 - Nat.pow 2 970

/-- Whether the digits, times ten to a power, are below the bound of floats.  Only where the number
has as many places as the bound itself are the two compared. -/
def floatFits (digits : List Char) (exponent : Int) : Bool :=
  let digits := digits.dropWhile (· == '0')
  let places := digits.length + exponent
  if digits.isEmpty || places < 309 then true
  else if 309 < places then false
  else if 0 ≤ exponent then valueIn 10 digits * Nat.pow 10 exponent.toNat < floatBound
  else valueIn 10 digits < floatBound * Nat.pow 10 (-exponent).toNat

/-- The value of an exponent, which may start with zeros. -/
def exponent? (cs : List Char) : Option Int := do
  let (negative, digits) := splitSign cs
  let n := valueIn 10 (← grouped? Char.isDigit digits)
  return if negative then -(n : Int) else n

/-- The digits in front of an exponent and how many of them stand behind the point. -/
def significand? (cs : List Char) : Option (List Char × Option Nat) :=
  match Text.splitAtFirst '.' cs with
  | none => (wholeDigits? cs).map fun whole => (whole, none)
  | some (whole, fraction) => do
    let whole ← wholeDigits? whole
    let fraction ← grouped? Char.isDigit fraction
    return (whole ++ fraction, some fraction.length)

/-- Whether a word is a float with digits: it has a fraction or an exponent, and it is not beyond
the largest float. -/
def isDigitalFloat (cs : List Char) : Bool :=
  let (negative, unsigned) := splitSign cs
  let parts := (Text.splitAtFirst 'e' unsigned).or (Text.splitAtFirst 'E' unsigned)
  let read : Option (List Char × Option Nat × Option Int) := match parts with
    | none => (significand? unsigned).map fun s => (s.1, s.2, none)
    | some (front, back) => do
      let s ← significand? front
      return (s.1, s.2, some (← exponent? back))
  match read with
  | none | some (_, none, none) => false
  | some (digits, places, exponent) =>
    negative || floatFits digits (exponent.getD 0 - (places.getD 0 : Nat))

def isFloat (cs : List Char) : Bool :=
  let special := (splitSign cs).2
  special == ['i', 'n', 'f'] || special == ['n', 'a', 'n'] || isDigitalFloat cs

/-! ## Dates and times -/

def date? (cs : List Char) : Option (List Char) := do
  let (year, cs) ← Time.fullNumber? 4 cs
  let cs ← Time.mark? '-' cs
  let (month, cs) ← Time.fullNumber? 2 cs
  let cs ← Time.mark? '-' cs
  let (day, cs) ← Time.fullNumber? 2 cs
  if (Date.mk year month day).Valid then some cs else none

/-- A time of day with seconds. -/
def clock? (cs : List Char) : Option (List Char) := do
  let (hour, cs) ← Time.fullNumber? 2 cs
  let cs ← Time.mark? ':' cs
  let (minute, cs) ← Time.fullNumber? 2 cs
  let cs ← Time.mark? ':' cs
  let (second, cs) ← Time.fullNumber? 2 cs
  let (_, cs) ← Time.fraction? cs
  if hour ≤ 23 ∧ minute ≤ 59 ∧ second ≤ 60 then some cs else none

/-- An offset: `Z`, or a sign, hours and minutes. -/
def offset? : List Char → Option (List Char)
  | 'Z' :: cs => some cs
  | 'z' :: cs => some cs
  | c :: cs => do
    if c ≠ '+' ∧ c ≠ '-' then none
    let (hour, cs) ← Time.fullNumber? 2 cs
    let cs ← Time.mark? ':' cs
    let (minute, cs) ← Time.fullNumber? 2 cs
    if hour ≤ 23 ∧ minute ≤ 59 then some cs else none
  | [] => none

/-- Whether what follows a date is nothing, or a time of day with or without an offset. -/
def isDateTail (cs : List Char) : Bool :=
  cs.isEmpty || match (Time.dateEnd? cs).bind clock? with
    | none => false
    | some rest => rest.isEmpty || offset? rest == some []

/-- Whether a word is a date, a time of day, or both. -/
def isMoment (cs : List Char) : Bool :=
  ((date? cs).map isDateTail).getD false || clock? cs == some []

/-! ## Words -/

/-- What a word stands for. -/
def scalar? (cs : List Char) : Option Scalar :=
  if cs = ['t', 'r', 'u', 'e'] ∨ cs = ['f', 'a', 'l', 's', 'e'] then some .boolean
  else if isMoment cs then some .moment
  else if isFloat cs then some .float
  else (integer? cs).map .integer

end HydroArchive.Toml
