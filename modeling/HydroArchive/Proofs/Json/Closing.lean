import HydroArchive.Json.Value
import HydroArchive.Proofs.Json.Quoted

/-!
# Where objects and arrays end

The text of an object ends with its closing brace, and the text of an array with its closing bracket,
apart from blanks behind.  So a text that ends in any other way is neither.  Nothing else is known of
the text here: it may nest to any depth, and its strings may hold any bytes.

## Main definitions

* `EndsWith` — bytes that end with a character, up to blanks.

## Main statements

* `scan_cons` — what one more byte does to the scanner.
* `endsWith_of_object`, `endsWith_of_array` — the last byte that is not blank.
-/

namespace HydroArchive.Json

/-- The bytes end with a character, up to blanks behind it. -/
def EndsWith (c : Char) (bs : List UInt8) : Prop :=
  ∃ front blanks, bs = front ++ byteOf c :: blanks ∧ ∀ b ∈ blanks, isSpace (ascii b) = true

/-! ## Scanning to the end -/

/-- The scanner takes a byte and goes on with the rest.  It stands between lexemes again only after
a blank, or where the byte is a mark or ends a quoted text. -/
theorem scan_cons {s : Scan} {b : UInt8} {rest : List UInt8} {ls : List Lexeme}
    (h : scan s (b :: rest) = some ls) :
    ∃ s' here later, scan s' rest = some later ∧ ls = here ++ later ∧
      (s' = .between → isSpace (ascii b) = true ∨
        ∃ front l, here = front ++ [l] ∧ (mark? (ascii b) = some l ∨ ∃ raw, l = .quoted raw)) := by
  cases s with
  | between =>
    rw [scan] at h
    split at h
    case isTrue blank => exact ⟨.between, [], ls, h, rfl, fun _ => Or.inl blank⟩
    case isFalse =>
      split at h
      case isTrue => exact ⟨.inQuotes [], [], ls, h, rfl, by simp⟩
      case isFalse =>
        split at h
        · rename_i m mark
          obtain ⟨later, scanned, rfl⟩ := Option.map_eq_some_iff.1 h
          exact ⟨.between, [m], later, scanned, rfl, fun _ => Or.inr ⟨[], m, rfl, Or.inl mark⟩⟩
        · exact ⟨.inWord [b], [], ls, h, rfl, by simp⟩
  | inWord w =>
    rw [scan] at h
    split at h
    case isTrue blank =>
      simp only [Option.bind_eq_bind, Option.bind_eq_some_iff, Option.pure_def,
        Option.some_inj] at h
      obtain ⟨l, -, later, scanned, rfl⟩ := h
      exact ⟨.between, [l], later, scanned, rfl, fun _ => Or.inl blank⟩
    case isFalse =>
      split at h
      case isTrue =>
        simp only [Option.bind_eq_bind, Option.bind_eq_some_iff, Option.pure_def,
          Option.some_inj] at h
        obtain ⟨l, -, later, scanned, rfl⟩ := h
        exact ⟨.inQuotes [], [l], later, scanned, rfl, by simp⟩
      case isFalse =>
        split at h
        · rename_i m mark
          simp only [Option.bind_eq_bind, Option.bind_eq_some_iff, Option.pure_def,
            Option.some_inj] at h
          obtain ⟨l, -, later, scanned, rfl⟩ := h
          exact ⟨.between, [l, m], later, scanned, rfl,
            fun _ => Or.inr ⟨[l], m, rfl, Or.inl mark⟩⟩
        · exact ⟨.inWord (b :: w), [], ls, h, rfl, by simp⟩
  | inQuotes w =>
    rw [scan] at h
    split at h
    case isTrue =>
      obtain ⟨later, scanned, rfl⟩ := Option.map_eq_some_iff.1 h
      exact ⟨.between, [.quoted w.reverse], later, scanned, rfl,
        fun _ => Or.inr ⟨[], _, rfl, Or.inr ⟨_, rfl⟩⟩⟩
    case isFalse =>
      split at h
      case isTrue => exact ⟨.inEscape (b :: w), [], ls, h, rfl, by simp⟩
      case isFalse =>
        split at h
        case isTrue => cases h
        case isFalse => exact ⟨.inQuotes (b :: w), [], ls, h, rfl, by simp⟩
  | inEscape w =>
    rw [scan] at h
    split at h
    case isTrue => exact ⟨.inQuotes (b :: w), [], ls, h, rfl, by simp⟩
    case isFalse =>
      split at h
      case isTrue => exact ⟨.inCode 4 (b :: w), [], ls, h, rfl, by simp⟩
      case isFalse => cases h
  | inCode digits w =>
    rw [scan] at h
    split at h
    case isTrue =>
      split at h
      case isTrue => exact ⟨.inQuotes (b :: w), [], ls, h, rfl, by simp⟩
      case isFalse => exact ⟨.inCode (digits - 1) (b :: w), [], ls, h, rfl, by simp⟩
    case isFalse => cases h

theorem isSpace_iff {c : Char} :
    isSpace c = true ↔ c = ' ' ∨ c = '\t' ∨ c = '\n' ∨ c = '\r' := by
  simp [isSpace, or_assoc]

/-- A blank is neither a quote nor anything that may follow a backslash. -/
theorem apart_of_isSpace {c : Char} (h : isSpace c = true) :
    c ≠ '"' ∧ c ≠ '\\' ∧ c ≠ 'u' ∧ isEscapeLetter c = false ∧ isHexDigit c = false := by
  rcases isSpace_iff.1 h with rfl | rfl | rfl | rfl <;> decide

/-- When only blanks are left, the scanner stood between lexemes or in a word that ends here. -/
theorem scan_blanks {blanks : List UInt8} (blank : ∀ b ∈ blanks, isSpace (ascii b) = true)
    {s : Scan} {ls : List Lexeme} (h : scan s blanks = some ls) :
    (s = .between ∧ ls = []) ∨ ∃ w l, s = .inWord w ∧ word? w.reverse = some l ∧ ls = [l] := by
  induction blanks generalizing s ls with
  | nil =>
    cases s with
    | between => exact Or.inl ⟨rfl, by simpa [scan] using h.symm⟩
    | inWord w =>
      obtain ⟨l, word, rfl⟩ := Option.map_eq_some_iff.1 h
      exact Or.inr ⟨w, l, rfl, word, rfl⟩
    | inQuotes w => cases h
    | inEscape w => cases h
    | inCode digits w => cases h
  | cons b blanks ih =>
    have here := blank b List.mem_cons_self
    obtain ⟨noQuote, noEscape, noCode, noLetter, noHex⟩ := apart_of_isSpace here
    have later {s : Scan} {ls : List Lexeme} := @ih (fun x hx => blank x (.tail b hx)) s ls
    cases s with
    | between =>
      rw [scan, if_pos here] at h
      rcases later h with done | ⟨w, l, inside, -⟩
      · exact Or.inl done
      · cases inside
    | inWord w =>
      rw [scan, if_pos here] at h
      simp only [Option.bind_eq_bind, Option.bind_eq_some_iff, Option.pure_def,
        Option.some_inj] at h
      obtain ⟨l, word, rest, scanned, rfl⟩ := h
      rcases later scanned with ⟨-, rfl⟩ | ⟨w, l, inside, -⟩
      · exact Or.inr ⟨w, l, rfl, word, rfl⟩
      · cases inside
    | inQuotes w =>
      rw [scan, if_neg noQuote, if_neg noEscape] at h
      split at h
      case isTrue => cases h
      case isFalse =>
        rcases later h with ⟨inside, -⟩ | ⟨w, l, inside, -⟩ <;> cases inside
    | inEscape w => simp [scan, noLetter, noCode] at h
    | inCode digits w => simp [scan, noHex] at h

/-- The last byte that is not blank is the mark that is scanned last, unless a quoted text or a word
is scanned last. -/
theorem scan_last {b : UInt8} (noBlank : isSpace (ascii b) = false) {blanks : List UInt8}
    (blank : ∀ x ∈ blanks, isSpace (ascii x) = true) {front : List UInt8} {s : Scan}
    {ls : List Lexeme} (h : scan s (front ++ b :: blanks) = some ls) :
    ∃ before l, ls = before ++ [l] ∧
      (mark? (ascii b) = some l ∨ (∃ raw, l = .quoted raw) ∨ ∃ w, word? w = some l) := by
  induction front generalizing s ls with
  | nil =>
    obtain ⟨s', here, later, scanned, rfl, ends⟩ := scan_cons h
    rcases scan_blanks blank scanned with ⟨rfl, rfl⟩ | ⟨w, l, -, word, rfl⟩
    · rcases ends rfl with isBlank | ⟨before, l, rfl, mark | quoted⟩
      · rw [noBlank] at isBlank
        cases isBlank
      · exact ⟨before, l, List.append_nil _, Or.inl mark⟩
      · exact ⟨before, l, List.append_nil _, Or.inr (Or.inl quoted)⟩
    · exact ⟨here, l, rfl, Or.inr (Or.inr ⟨_, word⟩)⟩
  | cons x front ih =>
    obtain ⟨s', here, later, scanned, rfl, -⟩ := scan_cons h
    obtain ⟨before, l, rfl, last⟩ := ih scanned
    exact ⟨here ++ before, l, (List.append_assoc _ _ _).symm, last⟩

/-! ## Building to the end -/

/-- A complete value is the whole one only where nothing is open around it. -/
theorem eq_of_complete_finished {frames frames' : List Frame} {v result : Value}
    (h : complete frames v = (frames', .finished result)) : v = result := by
  cases frames with
  | nil =>
    cases h
    rfl
  | cons frame frames => cases frame <;> cases h

/-- The lexemes after which a value of a kind can be complete. -/
def Closes : Lexeme → Value → Prop
  | .closeObject, .object _ => True
  | .closeObject, _ => False
  | .closeArray, .array _ => True
  | .closeArray, _ => False
  | _, .object _ => False
  | _, .array _ => False
  | _, _ => True

theorem closes_of_startValue {frames frames' : List Frame} {l : Lexeme} {v : Value}
    (h : startValue frames l = some (frames', .finished v)) : Closes l v := by
  cases l <;> simp only [startValue, Option.some_inj, reduceCtorEq] at h <;>
    first
    | exact eq_of_complete_finished h ▸ trivial
    | cases h

/-- The lexeme that completes the whole value closes it. -/
theorem closes_of_step {s : List Frame × Focus} {frames : List Frame} {l : Lexeme} {v : Value}
    (h : step s l = some (frames, .finished v)) : Closes l v := by
  unfold step at h
  split at h
  all_goals
    first
    | exact closes_of_startValue h
    | exact eq_of_complete_finished (Option.some_inj.1 h) ▸ trivial
    | cases h

/-- The last one of the lexemes that spell a value closes it. -/
theorem closes_of_ofLexemes? {before : List Lexeme} {l : Lexeme} {v : Value}
    (h : Value.ofLexemes? (before ++ [l]) = some v) : Closes l v := by
  rw [Value.ofLexemes?, List.foldlM_append] at h
  obtain ⟨⟨frames, focus⟩, built, finished⟩ := Option.bind_eq_some_iff.1 h
  obtain ⟨s, -, last⟩ := Option.bind_eq_some_iff.1 built
  have done : focus = .finished v := by
    split at finished
    · rename_i same
      cases same
      rw [Option.some_inj.1 finished]
    · cases finished
  rw [List.foldlM_cons] at last
  obtain ⟨t, stepped, same⟩ := Option.bind_eq_some_iff.1 last
  cases same
  exact closes_of_step (done ▸ stepped)

/-! ## Texts -/

theorem apart_of_word? {w : List UInt8} {l : Lexeme} (h : word? w = some l) :
    l ≠ .closeObject ∧ l ≠ .closeArray := by
  have ofNumber {cs : List Char} (hn : number? cs = some l) :
      l ≠ .closeObject ∧ l ≠ .closeArray := by
    unfold number? at hn
    split at hn <;> obtain ⟨n, -, rfl⟩ := Option.map_eq_some_iff.1 hn <;> exact ⟨by simp, by simp⟩
  unfold word? at h
  simp only at h
  split at h
  · cases h; exact ⟨by simp, by simp⟩
  · split at h
    · cases h; exact ⟨by simp, by simp⟩
    · split at h
      · cases h; exact ⟨by simp, by simp⟩
      · exact ofNumber h

/-- Bytes that are not all blank have a last one that is not. -/
theorem blank_or_last (bs : List UInt8) :
    (∀ b ∈ bs, isSpace (ascii b) = true) ∨
      ∃ front b blanks, bs = front ++ b :: blanks ∧ isSpace (ascii b) = false ∧
        ∀ x ∈ blanks, isSpace (ascii x) = true := by
  induction bs with
  | nil => exact Or.inl (List.forall_mem_nil _)
  | cons b bs ih =>
    rcases ih with blank | ⟨front, last, blanks, rfl, noBlank, blank⟩
    · cases here : isSpace (ascii b) with
      | true => exact Or.inl (List.forall_mem_cons.2 ⟨here, blank⟩)
      | false => exact Or.inr ⟨[], b, bs, rfl, here, blank⟩
    · exact Or.inr ⟨b :: front, last, blanks, rfl, noBlank, blank⟩

/-- The text of a value ends with a mark, if that mark and nothing else can close the value. -/
theorem endsWith_of_closes {bs : List UInt8} {v : Value} (h : Value.ofBytes? bs = some v)
    {l : Lexeme} {c : Char} (only : ∀ l', Closes l' v → l' = l)
    (closing : l = .closeObject ∨ l = .closeArray) (mark : ∀ d, mark? d = some l → d = c) :
    EndsWith c bs := by
  obtain ⟨ls, scanned, spelled⟩ := Option.bind_eq_some_iff.1 h
  rcases blank_or_last bs with blank | ⟨front, b, blanks, rfl, noBlank, blank⟩
  · rcases scan_blanks blank scanned with ⟨-, rfl⟩ | ⟨w, l, inside, -⟩
    · cases spelled
    · cases inside
  · obtain ⟨before, l', rfl, last⟩ := scan_last noBlank blank scanned
    obtain rfl := only l' (closes_of_ofLexemes? spelled)
    refine ⟨front, blanks, ?_, blank⟩
    rcases last with here | ⟨raw, rfl⟩ | ⟨w, word⟩
    · rw [eq_byteOf (mark _ here)]
    · rcases closing with closing | closing <;> cases closing
    · have apart := apart_of_word? word
      exact absurd closing (not_or.2 apart)

theorem endsWith_of_object {bs : List UInt8} {fields : List (List UInt8 × Value)}
    (h : Value.ofBytes? bs = some (.object fields)) : EndsWith '}' bs := by
  refine endsWith_of_closes h (fun l closes => ?_) (Or.inl rfl) fun d mark => ?_
  · cases l <;> first | rfl | exact closes.elim
  · unfold mark? at mark
    split at mark <;> first | rfl | cases mark

theorem endsWith_of_array {bs : List UInt8} {items : List Value}
    (h : Value.ofBytes? bs = some (.array items)) : EndsWith ']' bs := by
  refine endsWith_of_closes h (fun l closes => ?_) (Or.inr rfl) fun d mark => ?_
  · cases l <;> first | rfl | exact closes.elim
  · unfold mark? at mark
    split at mark <;> first | rfl | cases mark

/-- The last byte of all is then that character or a blank. -/
theorem EndsWith.last {c : Char} {front : List UInt8} {b : UInt8} (h : EndsWith c (front ++ [b])) :
    b = byteOf c ∨ isSpace (ascii b) = true := by
  obtain ⟨before, blanks, same, blank⟩ := h
  rcases List.eq_nil_or_concat blanks with rfl | ⟨blanks, last, rfl⟩
  · exact Or.inl (List.append_inj_right' same rfl |> List.singleton_inj.1)
  · refine Or.inr (blank b ?_)
    have joined : front ++ [b] = (before ++ byteOf c :: blanks) ++ [last] := by
      rw [same, List.concat_eq_append, List.append_assoc, List.cons_append]
    rw [List.singleton_inj.1 (List.append_inj_right' joined rfl), List.concat_eq_append]
    exact List.mem_append_right _ List.mem_cons_self

/-- A text whose last character is another one, and no blank, does not end so. -/
theorem not_endsWith_concat {c d : Char} (small : c.toNat < 256) (small' : d.toNat < 256)
    (other : c ≠ d) (noBlank : isSpace c = false) (front : List UInt8) :
    ¬ EndsWith d (front ++ [byteOf c]) := by
  intro ends
  rcases ends.last with same | blank
  · have value := congrArg ascii same
    rw [ascii_byteOf small, ascii_byteOf small'] at value
    exact other value
  · rw [ascii_byteOf small, noBlank] at blank
    cases blank

end HydroArchive.Json
