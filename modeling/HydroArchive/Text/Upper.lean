import HydroArchive.Text.UpperTable

/-!
# Upper case

Listings are ordered by the upper case of identifiers.  There are two mappings.  The full one writes
some characters with several, so that `ß` becomes `SS`; the simple one goes character by character,
so that `ß` becomes `ẞ` and a ligature stays as it is, and it knows fewer letters: `ⓐ` stays as it
is.  Both make `É` of `é`.  Two upper-case texts compare by code points.

## Main definitions

* `upper` — the upper case of a text, by the full mapping.
* `simpleUpper` — the upper case of a text, by the simple mapping.
* `sortByColumns` — the rows of a listing in the order of some text columns.
-/

namespace HydroArchive.Text

/-- The character to which the first run that covers a character moves it. -/
def movedBy? (runs : List UpperRun) (c : Char) : Option Char :=
  (runs.find? fun r => r.covers c.toNat).map fun r =>
    Char.ofNat ((c.toNat : Int) + r.shift).toNat

/-- The upper case of a character above ASCII. -/
def upperBeyondAscii (c : Char) : List Char :=
  match movedBy? (upperRuns ++ laterRuns) c with
  | some d => [d]
  | none =>
    match upperExpansions.lookup c.toNat with
    | some codes => codes.map Char.ofNat
    | none => [c]

def upperChar (c : Char) : List Char :=
  if c.toNat < 128 then [c.toUpper] else upperBeyondAscii c

def upper (s : String) : String := String.ofList (s.toList.flatMap upperChar)

/-- The one character that is the upper case of a character; without one it stays as it is. -/
def simpleUpperChar (c : Char) : Char :=
  if c.toNat < 128 then c.toUpper else (movedBy? (upperRuns ++ capitalRuns) c).getD c

def simpleUpper (s : String) : String := String.ofList (s.toList.map simpleUpperChar)

/-- Whether a row with the columns `a` may stand before a row with the columns `b`: the first
column in which they differ decides. -/
def columnsLE (a b : List String) : Bool := (compare a b).isLE

/-- The rows in the order of their columns; rows with equal columns keep their order. -/
def sortByColumns {α : Type} (columns : α → List String) (rows : List α) : List α :=
  rows.mergeSort fun a b => columnsLE (columns a) (columns b)

@[simp] theorem sortByColumns_nil {α : Type} (columns : α → List String) :
    sortByColumns columns [] = [] := List.mergeSort_nil

end HydroArchive.Text
