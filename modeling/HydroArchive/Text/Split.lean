/-!
# Splitting at a delimiter

Delimited cursors join their parts with a delimiter of one or more characters.  Splitting finds the
matches from the left and lets none overlap, so `"||||"` split at `"|||"` has the parts `""` and
`"|"`.  An empty delimiter matches between all characters and at both ends.

## Main definitions

* `join` — parts with the delimiter between them.
* `split` — the parts of a text.
-/

namespace HydroArchive.Text

/-- Puts a character in front of the first part. -/
def consHead (c : Char) : List (List Char) → List (List Char)
  | [] => [[c]]
  | part :: parts => (c :: part) :: parts

/-- The parts of a list of characters between the matches of a non-empty delimiter; the next `skip`
characters belong to a match that is already counted. -/
def cut (d : List Char) : Nat → List Char → List (List Char)
  | _, [] => [[]]
  | 0, c :: cs =>
    if d.isPrefixOf (c :: cs) then [] :: cut d (d.length - 1) cs else consHead c (cut d 0 cs)
  | skip + 1, _ :: cs => cut d skip cs

def splitChars : List Char → List Char → List (List Char)
  | [], cs => [] :: (cs.map fun c => [c]) ++ [[]]
  | d, cs => cut d 0 cs

/-- The parts of a text between the matches of the delimiter. -/
def split (delimiter text : String) : List String :=
  (splitChars delimiter.toList text.toList).map String.ofList

def join (delimiter : String) (parts : List String) : String :=
  String.ofList (List.intercalate delimiter.toList (parts.map String.toList))

/-- The text before and after the first occurrence of a character. -/
def splitAtFirst (c : Char) : List Char → Option (List Char × List Char)
  | [] => none
  | x :: xs => if x = c then some ([], xs)
    else (splitAtFirst c xs).map fun p => (x :: p.1, p.2)

end HydroArchive.Text
