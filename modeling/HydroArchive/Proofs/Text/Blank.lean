import HydroArchive.Text.Blank
import Mathlib.Data.List.DropRight

/-!
# Texts without blanks

Cursors and numbers are trimmed before they are read.  What the archive writes itself holds no blank
characters, so trimming leaves it alone.  It is also all ASCII, so its size is its length.
-/

namespace HydroArchive.Text

/-- Between the space and the first blank beyond ASCII no character is blank. -/
theorem isBlank_eq_false {c : Char} (low : 0x20 < c.toNat) (high : c.toNat < 0x85) :
    isBlank c = false := by
  simp [isBlank, blankRanges]
  omega

theorem dropWhile_isBlank {cs : List Char}
    (front : ∀ c, cs.head? = some c → isBlank c = false) : cs.dropWhile isBlank = cs := by
  cases cs with
  | nil => rfl
  | cons c cs => rw [List.dropWhile_cons, front c rfl]; rfl

/-- Characters with no blank at either end are trimmed to themselves. -/
theorem trimChars_eq_self_of_ends {cs : List Char}
    (front : ∀ c, cs.head? = some c → isBlank c = false)
    (back : ∀ c, cs.getLast? = some c → isBlank c = false) : trimChars cs = cs := by
  rw [← List.head?_reverse] at back
  rw [trimChars, trimLeft, dropWhile_isBlank front, trimRight, dropWhile_isBlank back,
    List.reverse_reverse]

/-- So are characters without blanks among them. -/
theorem trimChars_eq_self {cs : List Char} (h : ∀ c ∈ cs, isBlank c = false) :
    trimChars cs = cs :=
  trimChars_eq_self_of_ends (fun c head => h c (List.mem_of_head? head))
    fun c last => h c (List.mem_of_getLast? last)

theorem trim_ofList {cs : List Char} (h : ∀ c ∈ cs, isBlank c = false) :
    trim (String.ofList cs) = String.ofList cs := by
  rw [trim, String.toList_ofList, trimChars_eq_self h]

@[simp] theorem trimChars_trimChars (cs : List Char) : trimChars (trimChars cs) = trimChars cs := by
  have inFront : trimLeft (trimChars cs) = trimChars cs := by
    refine List.dropWhile_eq_self_iff.2 fun filled => ?_
    have isPrefix : trimChars cs <+: trimLeft cs := List.rdropWhile_prefix isBlank (trimLeft cs)
    have kept : trimLeft (trimLeft cs) = trimLeft cs := List.dropWhile_idempotent isBlank cs
    rw [isPrefix.getElem filled]
    exact List.dropWhile_eq_self_iff.1 kept _
  rw [trimChars, inFront]
  exact List.rdropWhile_idempotent isBlank (trimLeft cs)

@[simp] theorem trim_trim (s : String) : trim (trim s) = trim s := by
  rw [trim, trim, String.toList_ofList, trimChars_trimChars]

theorem mem_dropWhile_isBlank {c : Char} {cs : List Char} (h : c ∈ cs) (filled : isBlank c = false) :
    c ∈ cs.dropWhile isBlank := by
  rw [← List.takeWhile_append_dropWhile (p := isBlank) (l := cs)] at h
  rcases List.mem_append.1 h with dropped | kept
  · rw [List.mem_takeWhile_imp dropped] at filled
    cases filled
  · exact kept

theorem mem_trimChars {c : Char} {cs : List Char} (h : c ∈ cs) (filled : isBlank c = false) :
    c ∈ trimChars cs :=
  List.mem_reverse.2 <| mem_dropWhile_isBlank
    (List.mem_reverse.2 (mem_dropWhile_isBlank h filled)) filled

/-- What is left of a value is its trimmed text, if that is not empty. -/
theorem nonBlank?_eq_some_iff {value : Option String} {s : String} :
    nonBlank? value = some s ↔ ∃ text, value = some text ∧ trim text = s ∧ s ≠ "" := by
  rw [nonBlank?, Option.filter_eq_some_iff, Option.map_eq_some_iff]
  simp only [decide_eq_true_eq, exists_and_right, ← and_assoc]

theorem nonBlank?_eq_none_iff {value : Option String} :
    nonBlank? value = none ↔ ∀ text, value = some text → trim text = "" := by
  simp [nonBlank?, Option.filter_eq_none_iff]

/-- A value without blanks is kept as it is, unless it is empty. -/
theorem nonBlank?_ofList {cs : List Char} (ne : cs ≠ []) (h : ∀ c ∈ cs, isBlank c = false) :
    nonBlank? (some (String.ofList cs)) = some (String.ofList cs) := by
  have filled : String.ofList cs ≠ "" := by
    intro he
    exact ne (by simpa using congrArg String.toList he)
  simp [nonBlank?, trim_ofList h, filled]

/-! ## Size -/

theorem length_le_utf8ByteSize (cs : List Char) : cs.length ≤ (String.ofList cs).utf8ByteSize := by
  induction cs with
  | nil => exact Nat.zero_le _
  | cons c cs ih =>
    have filled := c.utf8Size_pos
    rw [String.ofList_cons, String.utf8ByteSize_append, String.utf8ByteSize_singleton,
      List.length_cons]
    omega

/-- An ASCII character takes exactly one byte. -/
theorem utf8ByteSize_ofList {cs : List Char} (h : ∀ c ∈ cs, c.toNat < 0x80) :
    (String.ofList cs).utf8ByteSize = cs.length := by
  induction cs with
  | nil => rfl
  | cons c cs ih =>
    have small : c.val ≤ 127 := UInt32.le_iff_toNat_le.2
      (by simpa using Nat.lt_succ_iff.1 (h c List.mem_cons_self))
    rw [String.ofList_cons, String.utf8ByteSize_append, String.utf8ByteSize_singleton,
      Char.utf8Size_eq_one_iff.2 small, ih fun d hd => h d (List.mem_cons_of_mem c hd),
      List.length_cons]
    omega

end HydroArchive.Text
