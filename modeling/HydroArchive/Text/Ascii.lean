/-!
# Comparing identifiers without regard to case

Identifiers of offices, series and locations are matched without regard to the case of the letters
`A` to `Z`.  No other letter is folded: `É` and `é` are different here, although they sort together
(see `HydroArchive.Text.Upper`).
-/

namespace HydroArchive.Text

/-- The characters of a text with `A` to `Z` in lower case. -/
def asciiFold (s : String) : List Char := s.toList.map Char.toLower

/-- Equality up to the case of the letters `A` to `Z`. -/
def sameFold (s t : String) : Bool := asciiFold s == asciiFold t

/-- A text with `a` to `z` in upper case. -/
def asciiUpper (s : String) : String := String.ofList (s.toList.map Char.toUpper)

/-- A text with `A` to `Z` in lower case. -/
def asciiLower (s : String) : String := String.ofList (asciiFold s)

theorem sameFold_iff {s t : String} : sameFold s t = true ↔ asciiFold s = asciiFold t := by
  simp [sameFold]

@[simp] theorem sameFold_refl (s : String) : sameFold s s = true := by
  simp [sameFold]

end HydroArchive.Text
