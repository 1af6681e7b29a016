/-!
# Blank characters

The characters that the archive treats as blank around a value: exactly those with the Unicode
property `White_Space`.  Names, offices, cursors and times all arrive as text typed by somebody, and
every one of them is trimmed with `trim` before it is looked at.

## Main definitions

* `isBlank` — the property, as a list of ranges.
* `trim` — a text without the blanks at either end.
* `nonBlank?` — a trimmed value, absent when nothing is left.
-/

namespace HydroArchive.Text

/-- The ranges of `White_Space`, first and last code point of each. -/
def blankRanges : List (Nat × Nat) :=
  [(0x09, 0x0D), (0x20, 0x20), (0x85, 0x85), (0xA0, 0xA0), (0x1680, 0x1680), (0x2000, 0x200A),
   (0x2028, 0x2029), (0x202F, 0x202F), (0x205F, 0x205F), (0x3000, 0x3000)]

/-- Whether a character has the property `White_Space`. -/
def isBlank (c : Char) : Bool :=
  blankRanges.any fun r => r.1 ≤ c.toNat && c.toNat ≤ r.2

def trimLeft (cs : List Char) : List Char := cs.dropWhile isBlank

def trimRight (cs : List Char) : List Char := (cs.reverse.dropWhile isBlank).reverse

/-- Drops the blanks at both ends of a list of characters. -/
def trimChars (cs : List Char) : List Char := trimRight (trimLeft cs)

def trim (s : String) : String := String.ofList (trimChars s.toList)

/-- The trimmed text of a value, absent when the value is absent or holds only blanks. -/
def nonBlank? (value : Option String) : Option String :=
  (value.map trim).filter fun s => s ≠ ""

end HydroArchive.Text
