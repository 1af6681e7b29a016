import HydroArchive.Text.Blank
import HydroArchive.Text.Number
import HydroArchive.Time.Calendar
import HydroArchive.Time.Instant

/-!
# Reading times

Two grammars for a date and a time of day.  The strict one is that of RFC 3339: every number has its
full width, and an offset or `Z` follows.  The lenient one also takes numbers that are short or have
blanks in front, a time without seconds, years beyond 9999 with a sign, and offsets with or without
a colon; it has no `Z`.

A reader takes the front of a list of characters and gives what is left.

## Main definitions

* `strict?` — a time with an offset or `Z`.
* `lenient?` — a time with an offset; `local?` — a time without one.
-/

namespace HydroArchive.Time

open Text (isBlank)

/-- The numbers of a written time. -/
structure Fields where
  year : Int
  month : Nat
  day : Nat
  hour : Nat
  minute : Nat
  second : Nat
  nano : Nat

/-- The years that the calendar of the archive covers. -/
def yearInRange (y : Int) : Bool := -262143 ≤ y && y ≤ 262142

/-- The wall-clock time of written numbers, if there is such a date and such a time of day.  Second
60 is the leap second after second 59, in any minute. -/
def Fields.wallTime? (f : Fields) : Option WallTime :=
  let date : Date := ⟨f.year, f.month, f.day⟩
  if yearInRange f.year ∧ date.Valid ∧ f.hour ≤ 23 ∧ f.minute ≤ 59 ∧ f.second ≤ 60 then
    let leap := f.second / 60
    let second := date.dayNumber * secondsPerDay
      + (f.hour * 3600 + f.minute * 60 + (f.second - leap) : Nat)
    (Instant.mk? second (f.nano + leap * nanosPerSecond)).map WallTime.mk
  else none

/-! ## Numbers and marks -/

/-- A character that must come next. -/
def mark? (c : Char) : List Char → Option (List Char)
  | d :: cs => if d = c then some cs else none
  | [] => none

def digitsValue (cs : List Char) : Nat :=
  cs.foldl (fun n c => 10 * n + (c.toNat - '0'.toNat)) 0

/-- A number of at least one and at most `width` digits. -/
def number? (width : Nat) (cs : List Char) : Option (Nat × List Char) :=
  let digits := (cs.take width).takeWhile Char.isDigit
  if digits.isEmpty then none else some (digitsValue digits, cs.drop digits.length)

def fullNumber? (width : Nat) (cs : List Char) : Option (Nat × List Char) :=
  let digits := (cs.take width).takeWhile Char.isDigit
  if digits.length = width then some (digitsValue digits, cs.drop width) else none

/-- A number with blanks in front. -/
def spacedNumber? (width : Nat) (cs : List Char) : Option (Nat × List Char) :=
  number? width (cs.dropWhile isBlank)

/-- A year: up to four digits, or a sign and any number of digits, with blanks in front. -/
def year? (cs : List Char) : Option (Int × List Char) :=
  match cs.dropWhile isBlank with
  | '-' :: cs => (number? cs.length cs).map fun p => (-(p.1 : Int), p.2)
  | '+' :: cs => (number? cs.length cs).map fun p => ((p.1 : Int), p.2)
  | cs => (number? 4 cs).map fun p => ((p.1 : Int), p.2)

/-- A fraction of a second in nanoseconds: a point and digits, of which nine count; or nothing. -/
def fraction? : List Char → Option (Nat × List Char)
  | '.' :: cs =>
    let digits := cs.takeWhile Char.isDigit
    if digits.isEmpty then none
    else
      let nine := digits.take 9 ++ List.replicate (9 - digits.length) '0'
      some (digitsValue nine, cs.dropWhile Char.isDigit)
  | cs => some (0, cs)

/-- The sign of an offset; the minus sign of typographers is one too. -/
def sign? : List Char → Option (Int × List Char)
  | '+' :: cs => some (1, cs)
  | '-' :: cs => some (-1, cs)
  | '\u2212' :: cs => some (-1, cs)
  | _ => none

/-- An offset of a sign, hours and minutes, less than a day; `separator?` reads what stands between
hours and minutes. -/
def offset? (separator? : List Char → Option (List Char)) (cs : List Char) :
    Option (Int × List Char) := do
  let (sign, cs) ← sign? cs
  let (hours, cs) ← fullNumber? 2 cs
  let cs ← separator? cs
  let (minutes, cs) ← fullNumber? 2 cs
  if hours ≤ 23 ∧ minutes ≤ 59 then some (sign * (hours * 3600 + minutes * 60 : Nat), cs) else none

/-! ## The strict grammar -/

/-- The mark between date and time of day. -/
def dateEnd? : List Char → Option (List Char)
  | 'T' :: cs => some cs
  | 't' :: cs => some cs
  | ' ' :: cs => some cs
  | _ => none

/-- An offset with a colon, or `Z` for none. -/
def strictOffset? : List Char → Option (Int × List Char)
  | 'Z' :: cs => some (0, cs)
  | 'z' :: cs => some (0, cs)
  | cs => offset? (mark? ':') cs

/-- A wall-clock time and the offset behind it. -/
def strict? (cs : List Char) : Option (WallTime × Int) := do
  let (year, cs) ← fullNumber? 4 cs
  let cs ← mark? '-' cs
  let (month, cs) ← fullNumber? 2 cs
  let cs ← mark? '-' cs
  let (day, cs) ← fullNumber? 2 cs
  let cs ← dateEnd? cs
  let (hour, cs) ← fullNumber? 2 cs
  let cs ← mark? ':' cs
  let (minute, cs) ← fullNumber? 2 cs
  let cs ← mark? ':' cs
  let (second, cs) ← fullNumber? 2 cs
  let (nano, cs) ← fraction? cs
  let (offset, cs) ← strictOffset? cs
  let wall ← Fields.wallTime? ⟨year, month, day, hour, minute, second, nano⟩
  if cs.isEmpty then some (wall, offset) else none

/-! ## The lenient grammar -/

/-- A date and a time of day of hours and minutes. -/
def upToMinutes? (cs : List Char) : Option (Fields × List Char) := do
  let (year, cs) ← year? cs
  let cs ← mark? '-' cs
  let (month, cs) ← spacedNumber? 2 cs
  let cs ← mark? '-' cs
  let (day, cs) ← spacedNumber? 2 cs
  let cs ← mark? 'T' cs
  let (hour, cs) ← spacedNumber? 2 cs
  let cs ← mark? ':' cs
  let (minute, cs) ← spacedNumber? 2 cs
  some (⟨year, month, day, hour, minute, 0, 0⟩, cs)

/-- A date and a time of day, the seconds being optional. -/
def fields? (cs : List Char) : Option (Fields × List Char) := do
  let (f, cs) ← upToMinutes? cs
  match cs with
  | ':' :: cs =>
    let (second, cs) ← spacedNumber? 2 cs
    let (nano, cs) ← fraction? cs
    some ({ f with second := second, nano := nano }, cs)
  | cs => some (f, cs)

/-- Any mixture of colons and blanks between hours and minutes of an offset. -/
def anySeparator (cs : List Char) : List Char := cs.dropWhile fun c => c == ':' || isBlank c

/-- A wall-clock time and the offset behind it. -/
def lenient? (cs : List Char) : Option (WallTime × Int) := do
  let (f, cs) ← fields? cs
  let (offset, cs) ← offset? (fun cs => some (anySeparator cs)) (cs.dropWhile isBlank)
  let wall ← f.wallTime?
  if cs.isEmpty then some (wall, offset) else none

/-- A wall-clock time without an offset. -/
def local? (cs : List Char) : Option WallTime := do
  let (f, cs) ← fields? cs
  if cs.isEmpty then f.wallTime? else none

end HydroArchive.Time
