import HydroArchive.Store.Database.Failure
import HydroArchive.Time.Instant

/-!
# Arguments of statements

The texts and times of a statement are handed to the database beside it, and so is a whole row that
is to be added.  The database keeps times in whole microseconds, and it refuses the texts and times
that it cannot keep.

## Main definitions

* `Instant.kept` — the instant that the database keeps for an instant.
* `Argument`, `Argument.objection?` — a text, a time or a row, and what the database says against
  it.
* `Argument.accept` — hands over the arguments of a statement; `accept_eq_ok` says when the
  database takes them.
-/

namespace HydroArchive

/-! ## Times -/

/-- Microseconds from 1970 to the year 2000, from which the database counts. -/
def epochMicros : Int := 946684800000000

/-- Whole microseconds since the year 2000, rounded towards it.  A leap second is counted as the
second after it. -/
def Instant.microsSince2000 (t : Instant) : Int :=
  Int.tdiv ((t.second * 1000000 - epochMicros) * 1000 + t.nano) 1000

/-- The instant that the database keeps for an instant. -/
def Instant.kept (t : Instant) : Instant :=
  let micros := t.microsSince2000 + epochMicros
  ⟨micros / 1000000, (micros % 1000000).toNat * 1000, by simp only [nanosPerSecond]; omega⟩

/-- The first microsecond that the database can keep, at midnight before 24 November −4713.  The
last one lies beyond the calendar of the archive. -/
def firstMicro : Int := -211813488000000000

/-! ## Arguments -/

/-- An argument of a statement. -/
inductive Argument where
  | text (s : String)
  | time (t : Instant)
  /-- The texts of a row, in one document. -/
  | row (texts : List String)
  deriving DecidableEq

namespace Argument

/-- Whether a text holds the character with the code zero. -/
def holdsZero (s : String) : Bool := s.toList.contains '\x00'

/-- What the database says of an argument that it cannot keep: a text must not hold the character
with the code zero, and a time must not be too early.  In a document that character is written as
an escape sequence, so there the fault has another name. -/
def objection? : Argument → Option String
  | text s =>
    if holdsZero s then some "invalid byte sequence for encoding \"UTF8\": 0x00" else none
  | time t => if t.microsSince2000 < firstMicro then some "timestamp out of range" else none
  | row texts =>
    if texts.any holdsZero then some "unsupported Unicode escape sequence" else none

def texts (given : List (Option String)) : List Argument := given.filterMap (·.map text)

/-- The row with some texts. -/
def ofRow (given : List (Option String)) : Argument := row (given.filterMap id)

/-- Hands over the arguments of a statement; the first that the database cannot keep makes it
refuse the statement. -/
def accept (arguments : List Argument) : Except StoreError Unit :=
  match arguments.findSome? objection? with
  | some message => .error (DatabaseFailure.refused .unknown message).report
  | none => .ok ()

/-- The database takes arguments to none of which it objects. -/
theorem accept_eq_ok {arguments : List Argument} :
    accept arguments = .ok () ↔ ∀ a ∈ arguments, a.objection? = none := by
  rw [accept, ← List.findSome?_eq_none_iff]
  split <;> simp_all

end Argument

end HydroArchive
