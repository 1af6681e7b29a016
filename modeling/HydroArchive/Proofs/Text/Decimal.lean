import Mathlib.Algebra.Ring.Nat
import Mathlib.Data.List.Basic
import HydroArchive.Proofs.Text.Blank
import HydroArchive.Text.Number

/-!
# Decimal numbers are read back

Integers are written into cursors and resume keys and read from them later.  Reading undoes writing,
for every integer within the bounds of the field that it is read into.

## Main statements

* `integer?_integerText` — integers with a sign.
* `natural?_decimalChars` — numbers without one.
* `length_decimalChars_le` — how many digits a number has at most.
-/

namespace HydroArchive.Text

/-! ## Digits -/

theorem toNat_of_isDigit {c : Char} (h : c.isDigit) : 48 ≤ c.toNat ∧ c.toNat ≤ 57 := by
  simp only [Char.isDigit, Bool.and_eq_true, decide_eq_true_eq] at h
  exact ⟨h.1, h.2⟩

theorem isBlank_of_isDigit {c : Char} (h : c.isDigit) : isBlank c = false := by
  have := toNat_of_isDigit h
  exact isBlank_eq_false (by omega) (by omega)

theorem digit?_of_isDigit {c : Char} (h : c.isDigit) :
    digit? c = some (c.toNat - '0'.toNat) := by
  have range : '0' ≤ c ∧ c ≤ '9' := toNat_of_isDigit h
  rw [digit?, if_pos range]

/-- Reading digits one by one gives their value. -/
theorem digitsFrom?_eq {cs : List Char} (h : ∀ c ∈ cs, c.isDigit) (n : Nat) :
    digitsFrom? n cs = some (Nat.ofDigitChars 10 cs n) := by
  induction cs generalizing n with
  | nil => rfl
  | cons c cs ih =>
    rw [digitsFrom?, digit?_of_isDigit (h c List.mem_cons_self), Option.bind_some,
      ih fun d hd => h d (List.mem_cons_of_mem c hd), Nat.ofDigitChars_cons]

theorem digits?_eq {cs : List Char} (ne : cs ≠ []) (h : ∀ c ∈ cs, c.isDigit) :
    digits? cs = some (Nat.ofDigitChars 10 cs 0) := by
  cases cs with
  | nil => exact absurd rfl ne
  | cons c cs => exact digitsFrom?_eq h 0

/-! ## Numbers without a sign -/

theorem isDigit_of_mem_decimalChars {n : Nat} {c : Char} (h : c ∈ decimalChars n) : c.isDigit :=
  Nat.isDigit_of_mem_toDigits (by decide) (by decide) h

theorem decimalChars_ne_nil (n : Nat) : decimalChars n ≠ [] := Nat.toDigits_ne_nil

@[simp] theorem digits?_decimalChars (n : Nat) : digits? (decimalChars n) = some n := by
  rw [digits?_eq (decimalChars_ne_nil n) fun c => isDigit_of_mem_decimalChars]
  exact congrArg some Nat.ofDigitChars_ten_toDigits

/-- Digits stand for themselves: no sign is taken from them. -/
@[simp] theorem naturalChars?_decimalChars (n : Nat) : naturalChars? (decimalChars n) = some n := by
  have digits := digits?_decimalChars n
  have isDigit : ∀ c ∈ decimalChars n, c.isDigit := fun c => isDigit_of_mem_decimalChars
  cases hcs : decimalChars n with
  | nil => exact absurd hcs (decimalChars_ne_nil n)
  | cons c cs =>
    rw [hcs] at digits isDigit
    have : c ≠ '+' := by
      rintro rfl
      exact absurd (isDigit _ List.mem_cons_self) (by decide)
    simpa [naturalChars?, this] using digits

theorem natural?_decimalChars {max n : Nat} (h : n ≤ max) :
    natural? max (String.ofList (decimalChars n)) = some n := by
  simp [natural?, h]

theorem length_decimalChars_le {n k : Nat} (pos : 0 < k) (h : n < 10 ^ k) :
    (decimalChars n).length ≤ k :=
  (Nat.length_toDigits_le_iff (by decide) pos).2 h

/-- Only zero is written with a zero in front. -/
theorem decimalChars_head_eq_zero {n : Nat} (h : (decimalChars n).head? = some '0') : n = 0 := by
  induction n using Nat.strongRecOn with
  | ind n ih =>
    by_cases small : n < 10
    · rw [decimalChars, Nat.toDigits_of_lt_base small, List.head?_cons, Option.some_inj] at h
      have := Nat.toNat_digitChar_of_lt_ten small
      rw [h] at this
      change 48 = 48 + n at this
      omega
    · rw [decimalChars, Nat.toDigits_of_base_le (by decide) (by omega),
        List.head?_append_of_ne_nil _ Nat.toDigits_ne_nil] at h
      have := ih (n / 10) (by omega) h
      omega

/-! ## Integers with a sign -/

theorem eq_or_isDigit_of_mem_integerText {n : Int} {c : Char} (h : c ∈ integerText n) :
    c = '-' ∨ c.isDigit := by
  rw [integerText] at h
  split at h
  · exact (List.mem_cons.1 h).imp id isDigit_of_mem_decimalChars
  · exact Or.inr (isDigit_of_mem_decimalChars h)

theorem isBlank_of_mem_integerText {n : Int} {c : Char} (h : c ∈ integerText n) :
    isBlank c = false := by
  rcases eq_or_isDigit_of_mem_integerText h with rfl | h
  · decide
  · exact isBlank_of_isDigit h

@[simp] theorem utf8ByteSize_integerText (n : Int) :
    (String.ofList (integerText n)).utf8ByteSize = (integerText n).length := by
  refine utf8ByteSize_ofList fun c h => ?_
  rcases eq_or_isDigit_of_mem_integerText h with rfl | h
  · decide
  · have := toNat_of_isDigit h
    omega

@[simp] theorem integerText_natCast (n : Nat) : integerText (n : Int) = decimalChars n := by
  rw [integerText, if_neg (by omega), Int.natAbs_natCast]

theorem length_integerText_le {n : Int} {k : Nat} (pos : 0 < k) (h : n.natAbs < 10 ^ k) :
    (integerText n).length ≤ k + 1 := by
  have digits := length_decimalChars_le pos h
  rw [integerText]
  split
  · rw [List.length_cons]
    omega
  · omega

theorem integerText_ne_nil (n : Int) : integerText n ≠ [] := by
  rw [integerText]
  split
  · exact List.cons_ne_nil _ _
  · exact decimalChars_ne_nil _

@[simp] theorem integerChars?_integerText (n : Int) : integerChars? (integerText n) = some n := by
  rw [integerText]
  split
  case isTrue neg =>
    have value : -(n.natAbs : Int) = n := by omega
    generalize n.natAbs = k at value ⊢
    simp [integerChars?, value]
  case isFalse pos =>
    have value : (n.natAbs : Int) = n := by omega
    have digits := naturalChars?_decimalChars n.natAbs
    have isDigit : ∀ c ∈ decimalChars n.natAbs, c.isDigit := fun c => isDigit_of_mem_decimalChars
    cases hcs : decimalChars n.natAbs with
    | nil => exact absurd hcs (decimalChars_ne_nil _)
    | cons c cs =>
      rw [hcs] at digits isDigit
      have : c ≠ '-' := by
        rintro rfl
        exact absurd (isDigit _ List.mem_cons_self) (by decide)
      simp [integerChars?, this, digits, value]

theorem integer?_integerText {min max n : Int} (low : min ≤ n) (high : n ≤ max) :
    integer? min max (String.ofList (integerText n)) = some n := by
  simp [integer?, low, high]

/-! ## Texts that are no number -/

section Foreign

variable {c : Char} {cs : List Char} {s : String}

theorem digitsFrom?_eq_none (h : c ∈ cs) (noDigit : digit? c = none) (n : Nat) :
    digitsFrom? n cs = none := by
  induction cs generalizing n with
  | nil => cases h
  | cons d cs ih =>
    rw [digitsFrom?]
    rcases List.mem_cons.1 h with rfl | later
    · rw [noDigit, Option.bind_none]
    · cases digit? d with
      | none => rfl
      | some k => exact ih later _

theorem digits?_eq_none (h : c ∈ cs) (noDigit : digit? c = none) : digits? cs = none := by
  cases cs with
  | nil => cases h
  | cons d cs => exact digitsFrom?_eq_none h noDigit 0

theorem naturalChars?_eq_none (h : c ∈ cs) (noDigit : digit? c = none) (noPlus : c ≠ '+') :
    naturalChars? cs = none := by
  unfold naturalChars?
  split
  · exact digits?_eq_none ((List.mem_cons.1 h).resolve_left noPlus) noDigit
  · exact digits?_eq_none h noDigit

theorem integerChars?_eq_none (h : c ∈ cs) (noDigit : digit? c = none) (noPlus : c ≠ '+')
    (noMinus : c ≠ '-') : integerChars? cs = none := by
  unfold integerChars?
  split
  · rw [digits?_eq_none ((List.mem_cons.1 h).resolve_left noMinus) noDigit]
    rfl
  · rw [naturalChars?_eq_none h noDigit noPlus]
    rfl

/-- A character that is neither a digit nor a sign keeps a text from being a number. -/
theorem natural?_eq_none (h : c ∈ s.toList) (noDigit : digit? c = none) (noPlus : c ≠ '+')
    (max : Nat) : natural? max s = none := by
  rw [natural?, naturalChars?_eq_none h noDigit noPlus, Option.filter_none]

theorem integer?_eq_none (h : c ∈ s.toList) (noDigit : digit? c = none) (noPlus : c ≠ '+')
    (noMinus : c ≠ '-') (min max : Int) : integer? min max s = none := by
  rw [integer?, integerChars?_eq_none h noDigit noPlus noMinus, Option.filter_none]

end Foreign

end HydroArchive.Text
