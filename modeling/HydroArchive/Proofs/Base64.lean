import HydroArchive.Base64

/-!
# Base 64 is read back

Reading undoes writing in both forms, at every length of the bytes.  A written text holds only
digits of its alphabet and padding, all of them printable ASCII.  The two alphabets share most of
their digits, and a text that holds no others stands for the same bytes in both forms.

## Main statements

* `Form.Lawful` — what a form must satisfy; `standard_lawful`, `urlSafe_lawful`.
* `decode?_encode` — the round trip.
* `isUrlSafeChar_of_mem_encode` — what a text for a URL is made of.
* `length_encode_urlSafe`, `length_encode_standard` — the length of a text.
* `length_of_decode?` — how many bytes a text can stand for.
* `decode?_agree` — the two forms never disagree on a text.
-/

namespace HydroArchive.Base64

/-- The sixty-four digits of a form are told apart, from each other and from padding, and are
printable. -/
structure Form.Lawful (f : Form) : Prop where
  value?_digit : ∀ n < 64, f.value? (f.digit n) = some n
  digit_ne_pad : ∀ n < 64, f.digit n ≠ '='
  printable : ∀ n < 64, 0x20 < (f.digit n).toNat ∧ (f.digit n).toNat < 0x7F

theorem standard_lawful : standard.Lawful where
  value?_digit := by decide
  digit_ne_pad := by decide
  printable := by decide

theorem urlSafe_lawful : urlSafe.Lawful where
  value?_digit := by decide
  digit_ne_pad := by decide
  printable := by decide

variable {f : Form}

/-! ## Groups -/

theorem ofNat_eq {a : UInt8} {n : Nat} (h : n = a.toNat) : UInt8.ofNat n = a := by
  rw [h, UInt8.ofNat_toNat]

theorem lastByte?_digits (h : f.Lawful) (a : UInt8) :
    lastByte? f (f.digit (a.toNat / 4)) (f.digit (a.toNat % 4 * 16)) = some [a] := by
  have ha : a.toNat < 256 := a.toNat_lt
  have p := h.value?_digit (a.toNat / 4) (by omega)
  have q := h.value?_digit (a.toNat % 4 * 16) (by omega)
  have clear : a.toNat % 4 * 16 % 16 = 0 := by omega
  simp only [lastByte?, p, q, Option.bind_eq_bind, Option.bind_some, clear, if_true]
  rw [ofNat_eq (a := a) (by omega)]

theorem lastTwoBytes?_digits (h : f.Lawful) (a b : UInt8) :
    lastTwoBytes? f (f.digit (a.toNat / 4)) (f.digit (a.toNat % 4 * 16 + b.toNat / 16))
      (f.digit (b.toNat % 16 * 4)) = some [a, b] := by
  have ha : a.toNat < 256 := a.toNat_lt
  have hb : b.toNat < 256 := b.toNat_lt
  have p := h.value?_digit (a.toNat / 4) (by omega)
  have q := h.value?_digit (a.toNat % 4 * 16 + b.toNat / 16) (by omega)
  have r := h.value?_digit (b.toNat % 16 * 4) (by omega)
  have clear : b.toNat % 16 * 4 % 4 = 0 := by omega
  simp only [lastTwoBytes?, p, q, r, Option.bind_eq_bind, Option.bind_some, clear, if_true]
  rw [ofNat_eq (a := a) (by omega), ofNat_eq (a := b) (by omega)]

theorem groupBytes?_digits (h : f.Lawful) (a b c : UInt8) :
    groupBytes? f (f.digit (a.toNat / 4)) (f.digit (a.toNat % 4 * 16 + b.toNat / 16))
      (f.digit (b.toNat % 16 * 4 + c.toNat / 64)) (f.digit (c.toNat % 64)) = some [a, b, c] := by
  have ha : a.toNat < 256 := a.toNat_lt
  have hb : b.toNat < 256 := b.toNat_lt
  have hc : c.toNat < 256 := c.toNat_lt
  have p := h.value?_digit (a.toNat / 4) (by omega)
  have q := h.value?_digit (a.toNat % 4 * 16 + b.toNat / 16) (by omega)
  have r := h.value?_digit (b.toNat % 16 * 4 + c.toNat / 64) (by omega)
  have s := h.value?_digit (c.toNat % 64) (by omega)
  simp only [groupBytes?, p, q, r, s, Option.bind_eq_bind, Option.bind_some]
  rw [ofNat_eq (a := a) (by omega), ofNat_eq (a := b) (by omega), ofNat_eq (a := c) (by omega)]

/-! ## Texts -/

/-- Every list of bytes is read back from its text. -/
theorem decode?_encode (h : f.Lawful) (bs : List UInt8) : decode? f (encode f bs) = some bs := by
  induction bs using encode.induct with
  | case1 => rfl
  | case2 a =>
    cases hp : f.padded <;>
      simp [encode, decode?, Form.padding, hp, lastByte?_digits h]
  | case3 a b =>
    have hb : b.toNat < 256 := b.toNat_lt
    have kept : f.digit (b.toNat % 16 * 4) ≠ '=' := h.digit_ne_pad _ (by omega)
    cases hp : f.padded <;>
      simp [encode, decode?, Form.padding, hp, lastTwoBytes?_digits h, kept]
  | case4 a b c rest ih =>
    have kept : f.digit (c.toNat % 64) ≠ '=' := h.digit_ne_pad _ (by omega)
    simp [encode, decode?, kept, groupBytes?_digits h, ih]

theorem eq_digit_or_pad_of_mem_encode {bs : List UInt8} {c : Char} (hc : c ∈ encode f bs) :
    (∃ n < 64, c = f.digit n) ∨ (f.padded = true ∧ c = '=') := by
  have digit (n : Nat) : ∃ k < 64, f.digit n = f.digit k :=
    ⟨n % 64, Nat.mod_lt n (by decide), by simp only [Form.digit, Nat.mod_mod]⟩
  have pad {n : Nat} (hc : c ∈ f.padding n) : f.padded = true ∧ c = '=' := by
    rw [Form.padding] at hc
    split at hc
    case isTrue padded => exact ⟨padded, List.eq_of_mem_replicate hc⟩
    case isFalse => exact absurd hc List.not_mem_nil
  induction bs using encode.induct with
  | case1 => exact absurd hc List.not_mem_nil
  | case2 a =>
    simp only [encode, List.cons_append, List.nil_append, List.mem_cons] at hc
    rcases hc with rfl | rfl | hc
    · exact Or.inl (digit _)
    · exact Or.inl (digit _)
    · exact Or.inr (pad hc)
  | case3 a b =>
    simp only [encode, List.cons_append, List.nil_append, List.mem_cons] at hc
    rcases hc with rfl | rfl | rfl | hc
    · exact Or.inl (digit _)
    · exact Or.inl (digit _)
    · exact Or.inl (digit _)
    · exact Or.inr (pad hc)
  | case4 a b c rest ih =>
    simp only [encode, List.mem_cons] at hc
    rcases hc with rfl | rfl | rfl | rfl | hc
    · exact Or.inl (digit _)
    · exact Or.inl (digit _)
    · exact Or.inl (digit _)
    · exact Or.inl (digit _)
    · exact ih hc

theorem printable_of_mem_encode (h : f.Lawful) {bs : List UInt8} {c : Char}
    (hc : c ∈ encode f bs) : 0x20 < c.toNat ∧ c.toNat < 0x7F := by
  rcases eq_digit_or_pad_of_mem_encode hc with ⟨n, small, rfl⟩ | ⟨-, rfl⟩
  · exact h.printable n small
  · decide

/-- The characters that a URL carries unchanged: ASCII letters and digits, the hyphen and the low
line. -/
def isUrlSafeChar (c : Char) : Bool := c.isAlphanum || c == '-' || c == '_'

/-- Without padding, a text in the alphabet for URLs holds no other characters. -/
theorem isUrlSafeChar_of_mem_encode {bs : List UInt8} {c : Char} (hc : c ∈ encode urlSafe bs) :
    isUrlSafeChar c = true := by
  have safe : ∀ n < 64, isUrlSafeChar (urlSafe.digit n) = true := by decide
  rcases eq_digit_or_pad_of_mem_encode hc with ⟨n, small, rfl⟩ | ⟨padded, -⟩
  · exact safe n small
  · cases padded

/-- Without padding, every three bytes take four digits, and a rest takes one more than its
length. -/
@[simp] theorem length_encode_urlSafe (bs : List UInt8) :
    (encode urlSafe bs).length = (4 * bs.length + 2) / 3 := by
  induction bs using encode.induct with
  | case1 => rfl
  | case2 a => simp [encode, Form.padding, urlSafe]
  | case3 a b => simp [encode, Form.padding, urlSafe]
  | case4 a b c rest ih =>
    simp only [encode, List.length_cons, ih]
    omega

/-- With padding, every three bytes take four digits, and so does a rest. -/
@[simp] theorem length_encode_standard (bs : List UInt8) :
    (encode standard bs).length = 4 * ((bs.length + 2) / 3) := by
  induction bs using encode.induct with
  | case1 => rfl
  | case2 a => simp [encode, Form.padding, standard]
  | case3 a b => simp [encode, Form.padding, standard]
  | case4 a b c rest ih =>
    simp only [encode, List.length_cons, ih]
    omega

theorem encode_ne_nil {bs : List UInt8} (h : bs ≠ []) : encode f bs ≠ [] := by
  cases bs using encode.induct with
  | case1 => exact absurd rfl h
  | case2 a => simp [encode]
  | case3 a b => simp [encode]
  | case4 a b c rest => simp [encode]

/-! ## How many bytes are read -/

theorem length_of_lastByte? {w x : Char} {bs : List UInt8} (h : lastByte? f w x = some bs) :
    bs.length = 1 := by
  simp only [lastByte?, Option.bind_eq_bind, Option.bind_eq_some_iff, Option.ite_none_right_eq_some,
    Option.some_inj] at h
  obtain ⟨p, -, q, -, -, rfl⟩ := h
  rfl

theorem length_of_lastTwoBytes? {w x y : Char} {bs : List UInt8}
    (h : lastTwoBytes? f w x y = some bs) : bs.length = 2 := by
  simp only [lastTwoBytes?, Option.bind_eq_bind, Option.bind_eq_some_iff,
    Option.ite_none_right_eq_some, Option.some_inj] at h
  obtain ⟨p, -, q, -, r, -, -, rfl⟩ := h
  rfl

theorem length_of_groupBytes? {w x y z : Char} {bs : List UInt8}
    (h : groupBytes? f w x y z = some bs) : bs.length = 3 := by
  simp only [groupBytes?, Option.bind_eq_bind, Option.bind_eq_some_iff, Option.some_inj] at h
  obtain ⟨p, -, q, -, r, -, s, -, rfl⟩ := h
  rfl

/-- A single digit stands for nothing. -/
theorem decode?_eq_none {cs : List Char} (ne : cs = [] → False)
    (two : ∀ w x, cs = [w, x] → False) (three : ∀ w x y, cs = [w, x, y] → False)
    (four : ∀ w x y z rest, cs = w :: x :: y :: z :: rest → False) : decode? f cs = none := by
  match cs with
  | [] => exact (ne rfl).elim
  | [w] => rfl
  | [w, x] => exact (two w x rfl).elim
  | [w, x, y] => exact (three w x y rfl).elim
  | w :: x :: y :: z :: rest => exact (four w x y z rest rfl).elim

/-- Four digits stand for at most three bytes, and no text but the empty one for none. -/
theorem length_of_decode? {cs : List Char} {bs : List UInt8} (h : decode? f cs = some bs) :
    4 * bs.length ≤ 3 * cs.length ∧ cs.length ≤ 4 * bs.length := by
  induction cs using decode?.induct (f := f) generalizing bs with
  | case1 =>
    cases h
    exact ⟨Nat.le_refl _, Nat.le_refl _⟩
  | case2 w x padded =>
    rw [decode?, if_pos padded] at h
    cases h
  | case3 w x unpadded =>
    rw [decode?, if_neg unpadded] at h
    simp [length_of_lastByte? h]
  | case4 w x y padded =>
    rw [decode?, if_pos padded] at h
    cases h
  | case5 w x y unpadded =>
    rw [decode?, if_neg unpadded] at h
    simp [length_of_lastTwoBytes? h]
  | case6 w x z rest last =>
    rw [decode?, if_pos last, if_pos rfl] at h
    have short := length_of_lastByte? h
    simp only [Bool.and_eq_true, List.isEmpty_iff] at last
    simp [short, last.1.2]
  | case7 w x y z rest last more =>
    rw [decode?, if_pos last, if_neg more] at h
    have short := length_of_lastTwoBytes? h
    simp only [Bool.and_eq_true, List.isEmpty_iff] at last
    simp [short, last.1.2]
  | case8 w x y z rest inner ih =>
    rw [decode?, if_neg inner] at h
    obtain ⟨group, digits, h⟩ := Option.bind_eq_some_iff.1 h
    obtain ⟨more, read, h⟩ := Option.bind_eq_some_iff.1 h
    obtain rfl := Option.some_inj.1 h
    have three := length_of_groupBytes? digits
    have bounds := ih read
    simp only [List.length_append, List.length_cons]
    omega
  | case9 cs ne two three four =>
    rw [decode?_eq_none ne two three four] at h
    cases h

/-! ## Both forms -/

/-- A digit of both alphabets has one value. -/
theorem value?_agree {c : Char} {p q : Nat} (h : urlSafe.value? c = some p)
    (k : standard.value? c = some q) : p = q := by
  simp only [Form.value?, urlSafe, standard] at h k
  grind

theorem groupBytes?_agree {w x y z : Char} {bs bs' : List UInt8}
    (h : groupBytes? urlSafe w x y z = some bs) (k : groupBytes? standard w x y z = some bs') :
    bs = bs' := by
  simp only [groupBytes?, Option.bind_eq_bind, Option.bind_eq_some_iff, Option.some_inj] at h k
  obtain ⟨p, hp, q, hq, r, hr, s, hs, rfl⟩ := h
  obtain ⟨p', hp', q', hq', r', hr', s', hs', rfl⟩ := k
  rw [value?_agree hp hp', value?_agree hq hq', value?_agree hr hr', value?_agree hs hs']

/-- Padding is foreign to the alphabet for URLs. -/
@[simp] theorem groupBytes?_urlSafe_pad (w x y : Char) : groupBytes? urlSafe w x y '=' = none := by
  have pad : urlSafe.value? '=' = none := by decide
  simp [groupBytes?, pad]

theorem decode?_urlSafe_cons {w x y z : Char} {rest : List Char} {bs : List UInt8}
    (h : decode? urlSafe (w :: x :: y :: z :: rest) = some bs) :
    ∃ group more, groupBytes? urlSafe w x y z = some group ∧ decode? urlSafe rest = some more ∧
      group ++ more = bs := by
  simpa [decode?, urlSafe, Option.bind_eq_some_iff] using h

/-- A text that can be read in both forms stands for the same bytes in both. -/
theorem decode?_agree {cs : List Char} {bs bs' : List UInt8} (h : decode? urlSafe cs = some bs)
    (k : decode? standard cs = some bs') : bs = bs' := by
  induction cs using decode?.induct (f := standard) generalizing bs bs' with
  | case1 => exact Option.some_inj.1 (h.symm.trans k)
  | case2 w x => cases k
  | case3 w x unpadded => exact absurd rfl unpadded
  | case4 w x y => cases k
  | case5 w x y unpadded => exact absurd rfl unpadded
  | case6 w x z rest last =>
    simp only [Bool.and_eq_true, beq_iff_eq] at last
    obtain ⟨group, -, digits, -⟩ := decode?_urlSafe_cons h
    rw [last.2, groupBytes?_urlSafe_pad] at digits
    cases digits
  | case7 w x y z rest last =>
    simp only [Bool.and_eq_true, beq_iff_eq] at last
    obtain ⟨group, -, digits, -⟩ := decode?_urlSafe_cons h
    rw [last.2, groupBytes?_urlSafe_pad] at digits
    cases digits
  | case8 w x y z rest inner ih =>
    rw [decode?, if_neg inner] at k
    obtain ⟨group', digits', k⟩ := Option.bind_eq_some_iff.1 k
    obtain ⟨more', read', k⟩ := Option.bind_eq_some_iff.1 k
    obtain ⟨group, more, digits, read, rfl⟩ := decode?_urlSafe_cons h
    rw [groupBytes?_agree digits digits', ih read read']
    exact Option.some_inj.1 k
  | case9 cs ne two three four =>
    rw [decode?_eq_none ne two three four] at k
    cases k

end HydroArchive.Base64
