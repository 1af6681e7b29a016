import HydroArchive.Text.Utf8
import Mathlib.Data.List.Induction

/-!
# The end of a text and of its bytes

In UTF-8 an ASCII character is its own byte, and no other character has such a byte in it.  So a
text ends with certain ASCII characters exactly if its bytes do.

## Main statements

* `bytes_append_ascii` — from the text to its bytes.
* `exists_append_of_bytes` — from the bytes to the text.
-/

namespace HydroArchive.Text

/-- The bytes of ASCII characters. -/
def asciiCodes (cs : List Char) : List UInt8 := cs.map fun c => UInt8.ofNat c.toNat

@[simp] theorem bytes_ofList (cs : List Char) :
    bytes (String.ofList cs) = cs.flatMap String.utf8EncodeChar := by
  rw [bytes, String.toByteArray_ofList, List.utf8Encode, List.data_toByteArray,
    List.toList_toArray]

/-- The bytes that a text was read from are its own. -/
theorem bytes_of_ofBytes? {bs : List UInt8} {s : String} (h : ofBytes? bs = some s) :
    bytes s = bs := by
  rw [ofBytes?, String.fromUTF8?] at h
  split at h
  case isTrue valid =>
    cases h
    rfl
  case isFalse => cases h

theorem utf8EncodeChar_ascii {c : Char} (h : c.toNat < 128) :
    String.utf8EncodeChar c = [UInt8.ofNat c.toNat] := by
  have small : c.val.toNat ≤ 127 := Nat.lt_succ_iff.1 h
  simp only [String.utf8EncodeChar, if_pos small]
  rfl

theorem flatMap_ascii {cs : List Char} (ascii : ∀ c ∈ cs, c.toNat < 128) :
    cs.flatMap String.utf8EncodeChar = asciiCodes cs := by
  induction cs with
  | nil => rfl
  | cons c cs ih =>
    rw [List.flatMap_cons, utf8EncodeChar_ascii (ascii c List.mem_cons_self),
      ih fun x hx => ascii x (List.mem_cons_of_mem c hx)]
    rfl

/-- ASCII characters at the end of a text are the last of its bytes. -/
theorem bytes_append_ascii (front : List Char) {cs : List Char} (ascii : ∀ c ∈ cs, c.toNat < 128) :
    bytes (String.ofList (front ++ cs)) = bytes (String.ofList front) ++ asciiCodes cs := by
  rw [bytes_ofList, bytes_ofList, List.flatMap_append, flatMap_ascii ascii]

/-- Only an ASCII character has an ASCII byte at its end. -/
theorem eq_of_utf8EncodeChar {c : Char} {front : List UInt8} {b : UInt8} (ascii : b.toNat < 128)
    (h : String.utf8EncodeChar c = front ++ [b]) : front = [] ∧ c.toNat = b.toNat := by
  have last := congrArg List.getLast? h
  rw [List.getLast?_concat] at last
  by_cases small : c.val.toNat ≤ 127
  · rw [utf8EncodeChar_ascii (Nat.lt_succ_of_le small), List.getLast?_singleton,
      Option.some_inj] at last
    rw [utf8EncodeChar_ascii (Nat.lt_succ_of_le small)] at h
    have length := congrArg List.length h
    refine ⟨List.length_eq_zero_iff.1 (by simpa using length.symm), ?_⟩
    rw [← last, UInt8.toNat_ofNat']
    exact (Nat.mod_eq_of_lt (Nat.lt_of_le_of_lt small (by decide))).symm
  · -- every other character ends with a continuation byte
    have continues : some (UInt8.ofNat (c.val.toNat % 64 + 128)) = some b := by
      simp only [String.utf8EncodeChar, if_neg small] at last
      split at last
      · exact last
      · split at last <;> exact last
    rw [← Option.some_inj.1 continues, UInt8.toNat_ofNat'] at ascii
    omega

/-- A text whose bytes end with ASCII characters ends with these characters. -/
theorem exists_append_of_bytes {cs : List Char} (ascii : ∀ c ∈ cs, c.toNat < 128) {s : List Char}
    {front : List UInt8} (h : bytes (String.ofList s) = front ++ asciiCodes cs) :
    ∃ init, s = init ++ cs ∧ bytes (String.ofList init) = front := by
  induction cs using List.reverseRecOn generalizing s with
  | nil => exact ⟨s, (List.append_nil s).symm, h.trans (List.append_nil front)⟩
  | append_singleton cs c ih =>
    have small := ascii c (List.mem_append_right cs List.mem_cons_self)
    have code : (UInt8.ofNat c.toNat).toNat = c.toNat := by
      rw [UInt8.toNat_ofNat']
      omega
    rw [asciiCodes, List.map_append, List.map_singleton, ← List.append_assoc] at h
    rcases List.eq_nil_or_concat s with rfl | ⟨s, e, rfl⟩
    · exact absurd (congrArg List.length h) (by simp [bytes])
    · rw [bytes_ofList, List.concat_eq_append, List.flatMap_append, List.flatMap_singleton] at h
      obtain ⟨shown, last, hlast⟩ : ∃ shown last, String.utf8EncodeChar e = shown ++ [last] :=
        ⟨_, _, (List.dropLast_concat_getLast String.utf8EncodeChar_ne_nil).symm⟩
      rw [hlast, ← List.append_assoc] at h
      have same : last = UInt8.ofNat c.toNat := List.singleton_inj.1 (List.append_inj_right' h rfl)
      obtain ⟨rfl, value⟩ := eq_of_utf8EncodeChar (by rw [same, code]; exact small) hlast
      have char : e = c := Char.toNat_inj.1 (by rw [value, same, code])
      have rest := List.append_inj_left' h rfl
      rw [List.append_nil, ← bytes_ofList] at rest
      obtain ⟨init, rfl, bytes⟩ := ih (fun x hx => ascii x (List.mem_append_left _ hx)) rest
      exact ⟨init, by rw [char, List.concat_eq_append, List.append_assoc], bytes⟩

end HydroArchive.Text
