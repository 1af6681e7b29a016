import HydroArchive.Proofs.Text.Blank
import HydroArchive.Text.Ascii
import Mathlib.Data.List.Infix

/-!
# Blanks and the case of letters

Whether a character is blank does not depend on its case, so a text that differs from a trimmed one
in case only is trimmed as well.

## Main statements

* `trim_of_sameFold` — a text that is another one up to case is trimmed if that one is.
* `nonBlank?_of_sameFold` — it is also kept as a value.
-/

namespace HydroArchive.Text

/-- Only `A` to `Z` are folded, and neither these nor `a` to `z` are blank. -/
@[simp] theorem isBlank_toLower (c : Char) : isBlank c.toLower = isBlank c := by
  by_cases upper : c.val ≥ 'A'.val ∧ c.val ≤ 'Z'.val
  · have range : 65 ≤ c.toNat ∧ c.toNat ≤ 90 := upper
    have value : c.toLower.toNat = c.toNat + 32 := by
      have lower : c.toLower.val = c.val + 32 := congrArg Char.val (dif_pos upper)
      change c.toLower.val.toNat = c.val.toNat + 32
      rw [lower]
      have : c.val.toNat ≤ 90 := range.2
      rw [UInt32.toNat_add]
      exact Nat.mod_eq_of_lt (Nat.lt_of_le_of_lt (Nat.add_le_add_right this 32) (by decide))
    rw [isBlank_eq_false (c := c) (by omega) (by omega),
      isBlank_eq_false (c := c.toLower) (by omega) (by omega)]
  · have same : c.toLower = c := dif_neg upper
    rw [same]

@[simp] theorem dropWhile_isBlank_map_toLower (cs : List Char) :
    (cs.map Char.toLower).dropWhile isBlank = (cs.dropWhile isBlank).map Char.toLower := by
  rw [List.dropWhile_map]
  exact congrArg (fun p => (cs.dropWhile p).map Char.toLower) (funext isBlank_toLower)

@[simp] theorem trimChars_map_toLower (cs : List Char) :
    trimChars (cs.map Char.toLower) = (trimChars cs).map Char.toLower := by
  simp only [trimChars, trimLeft, trimRight, ← List.map_reverse, dropWhile_isBlank_map_toLower]

theorem trimChars_sublist (cs : List Char) : (trimChars cs).Sublist cs :=
  (List.rdropWhile_prefix isBlank (trimLeft cs)).sublist.trans (List.dropWhile_sublist isBlank)

variable {s t : String}

/-- Trimming takes as many characters off a text as off one that differs in case only. -/
theorem trim_of_sameFold (same : sameFold s t = true) (trimmed : trim t = t) : trim s = s := by
  have folded : asciiFold s = asciiFold t := sameFold_iff.1 same
  have length : (trimChars s.toList).length = s.toList.length := by
    have chars : trimChars t.toList = t.toList := by
      simpa [trim] using congrArg String.toList trimmed
    calc (trimChars s.toList).length
        = (trimChars (asciiFold s)).length := by
          rw [asciiFold, trimChars_map_toLower, List.length_map]
      _ = (asciiFold t).length := by
          rw [folded, asciiFold, trimChars_map_toLower, chars]
      _ = s.toList.length := by rw [← folded, asciiFold, List.length_map]
  rw [trim, (trimChars_sublist s.toList).eq_of_length length, String.ofList_toList]

/-- A text that differs from a trimmed one in case only is kept as a value. -/
theorem nonBlank?_of_sameFold (same : sameFold s t = true) (trimmed : trim t = t)
    (filled : t ≠ "") : nonBlank? (some s) = some s := by
  have ne : s ≠ "" := by
    rintro rfl
    have nil : asciiFold t = [] := (sameFold_iff.1 same).symm
    exact filled (String.toList_inj.1 (List.map_eq_nil_iff.1 nil))
  simp [nonBlank?, trim_of_sameFold same trimmed, ne]

end HydroArchive.Text
