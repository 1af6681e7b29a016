import Mathlib.Data.List.Infix
import HydroArchive.Text.Split

/-!
# Splitting and joining

Splitting a joined text gives the parts back, as long as the character that the delimiter starts
with stands in none of them.  Joining the parts of a text gives the text back without any such
condition.

## Main statements

* `split_join`, `join_split` — each undoes the other.
* `cut_eq_singleton`, `two_le_length_cut` — whether the delimiter stands in a text.
* `suffix_getLast_cut` — an ending without the delimiter is an ending of the last part.
-/

namespace HydroArchive.Text

variable {d : List Char}

/-! ## Cutting -/

theorem consHead_ne_nil (c : Char) (parts : List (List Char)) : consHead c parts ≠ [] := by
  cases parts <;> exact List.cons_ne_nil _ _

theorem cut_ne_nil (d : List Char) (skip : Nat) (cs : List Char) : cut d skip cs ≠ [] := by
  induction cs generalizing skip with
  | nil => cases skip <;> exact List.cons_ne_nil _ _
  | cons c cs ih =>
    cases skip with
    | zero =>
      rw [cut]
      split
      · exact List.cons_ne_nil _ _
      · exact consHead_ne_nil _ _
    | succ skip => exact ih skip

/-- The characters of a match that is already counted are skipped. -/
@[simp] theorem cut_skip (d front rest : List Char) :
    cut d front.length (front ++ rest) = cut d 0 rest := by
  induction front with
  | nil => rfl
  | cons c front ih => exact ih

/-- A match ends a part. -/
theorem cut_delimiter (ne : d ≠ []) (rest : List Char) :
    cut d 0 (d ++ rest) = [] :: cut d 0 rest := by
  obtain ⟨c, cs, rfl⟩ := List.exists_cons_of_ne_nil ne
  have here : (c :: cs).isPrefixOf (c :: (cs ++ rest)) = true :=
    List.isPrefixOf_iff_prefix.2 (List.prefix_append (c :: cs) rest)
  rw [List.cons_append, cut, if_pos here]
  exact congrArg _ (cut_skip (c :: cs) cs rest)

theorem cut_cons (c : Char) (cs : List Char) (no : ¬ d <+: c :: cs) :
    cut d 0 (c :: cs) = consHead c (cut d 0 cs) := by
  rw [cut, if_neg (mt List.isPrefixOf_iff_prefix.1 no)]

/-- Characters that no match starts with belong to the part in front. -/
theorem cut_append {part : List Char} (ne : d ≠ []) (free : ∀ c ∈ part, d.head? ≠ some c)
    {rest first : List Char} {parts : List (List Char)} (h : cut d 0 rest = first :: parts) :
    cut d 0 (part ++ rest) = (part ++ first) :: parts := by
  induction part with
  | nil => exact h
  | cons c part ih =>
    have no : ¬ d <+: c :: (part ++ rest) := by
      obtain ⟨e, es, rfl⟩ := List.exists_cons_of_ne_nil ne
      intro here
      exact free c List.mem_cons_self (congrArg some (List.cons_prefix_cons.1 here).1)
    rw [List.cons_append, cut_cons c _ no, ih fun x hx => free x (List.mem_cons_of_mem c hx)]
    rfl

/-- Parts that no match starts in are found again. -/
theorem cut_intercalate (ne : d ≠ []) (part : List Char) (parts : List (List Char))
    (free : ∀ p ∈ part :: parts, ∀ c ∈ p, d.head? ≠ some c) :
    cut d 0 (d.intercalate (part :: parts)) = part :: parts := by
  induction parts generalizing part with
  | nil =>
    have empty : cut d 0 [] = [[]] := rfl
    have whole := cut_append ne (free part List.mem_cons_self) empty
    simpa [List.intercalate_singleton] using whole
  | cons next parts ih =>
    have later := ih next fun p hp => free p (List.mem_cons_of_mem part hp)
    have delimited := cut_delimiter ne (d.intercalate (next :: parts))
    rw [List.intercalate_cons_cons, List.append_assoc,
      cut_append ne (free part List.mem_cons_self) delimited, later, List.append_nil]

theorem intercalate_consHead (c : Char) {parts : List (List Char)} (ne : parts ≠ []) :
    d.intercalate (consHead c parts) = c :: d.intercalate parts := by
  cases parts with
  | nil => exact absurd rfl ne
  | cons part parts => cases parts <;> simp [consHead, List.intercalate_cons_cons]

/-- What was skipped apart, the parts of a list of characters make it up again. -/
theorem intercalate_cut (ne : d ≠ []) (skip : Nat) (cs : List Char) :
    d.intercalate (cut d skip cs) = cs.drop skip := by
  induction cs generalizing skip with
  | nil => cases skip <;> rfl
  | cons c cs ih =>
    cases skip with
    | succ skip => exact ih skip
    | zero =>
      by_cases here : d <+: c :: cs
      · -- the rest of the match is skipped, so `d` and what follows it make up the characters
        rw [cut, if_pos (List.isPrefixOf_iff_prefix.2 here)]
        have later := ih (d.length - 1)
        obtain ⟨first, parts, hparts⟩ :=
          List.exists_cons_of_ne_nil (cut_ne_nil d (d.length - 1) cs)
        rw [hparts] at later ⊢
        rw [List.intercalate_cons_cons, later, List.nil_append]
        obtain ⟨rest, hrest⟩ := here
        obtain ⟨e, es, rfl⟩ := List.exists_cons_of_ne_nil ne
        obtain ⟨rfl, rfl⟩ := List.cons.inj hrest
        simp
      · rw [cut_cons c cs here, intercalate_consHead c (cut_ne_nil d 0 cs), ih 0]
        rfl

/-! ## How many parts there are -/

theorem cut_eq_singleton {cs : List Char} (free : ¬ d <:+: cs) : cut d 0 cs = [cs] := by
  induction cs with
  | nil => rfl
  | cons c cs ih =>
    have apart := not_or.1 (mt List.infix_cons_iff.2 free)
    rw [cut_cons c cs apart.1, ih apart.2]
    rfl

theorem length_consHead (c : Char) {parts : List (List Char)} (ne : parts ≠ []) :
    (consHead c parts).length = parts.length := by
  cases parts with
  | nil => exact absurd rfl ne
  | cons part parts => rfl

theorem two_le_length_cut {cs : List Char} (ne : d ≠ []) (inside : d <:+: cs) :
    2 ≤ (cut d 0 cs).length := by
  induction cs with
  | nil => exact absurd (List.infix_nil.1 inside) ne
  | cons c cs ih =>
    by_cases here : d <+: c :: cs
    · obtain ⟨rest, hrest⟩ := here
      have filled := List.length_pos_iff.2 (cut_ne_nil d 0 rest)
      rw [← hrest, cut_delimiter ne, List.length_cons]
      omega
    · have later := ih ((List.infix_cons_iff.1 inside).resolve_left here)
      rwa [cut_cons c cs here, length_consHead c (cut_ne_nil d 0 cs)]

/-! ## The last part -/

theorem intercalate_concat {parts : List (List Char)} (ne : parts ≠ []) (last : List Char) :
    d.intercalate (parts ++ [last]) = d.intercalate parts ++ (d ++ last) := by
  induction parts with
  | nil => exact absurd rfl ne
  | cons part parts ih =>
    cases parts with
    | nil => simp [List.intercalate_cons_cons]
    | cons next parts =>
      have later := ih (List.cons_ne_nil _ _)
      simp only [List.cons_append, List.intercalate_cons_cons, List.append_assoc] at later ⊢
      rw [later]

/-- An ending that shares no character with what stands in front is an ending of the rest. -/
theorem suffix_of_suffix_append {ending rest : List Char} (clear : ∀ c ∈ ending, c ∉ d)
    (h : ending <:+ d ++ rest) : ending <:+ rest := by
  rcases List.suffix_or_suffix_of_suffix h (List.suffix_append d rest) with inside | ⟨extra, rfl⟩
  · exact inside
  · obtain ⟨front, hfront⟩ := h
    have shared : front ++ extra = d :=
      List.append_cancel_right (by rw [List.append_assoc, hfront])
    have none : extra = [] := List.eq_nil_iff_forall_not_mem.2 fun c hc =>
      clear c (List.mem_append_left _ hc) (shared ▸ List.mem_append_right front hc)
    rw [none]
    exact List.suffix_refl _

/-- An ending without any character of the delimiter is an ending of the last part. -/
theorem suffix_getLast_cut {cs ending : List Char} (ne : d ≠ []) (clear : ∀ c ∈ ending, c ∉ d)
    (h : ending <:+ cs) : ending <:+ (cut d 0 cs).getLast (cut_ne_nil d 0 cs) := by
  have whole := intercalate_cut ne 0 cs
  obtain ⟨parts, last, hparts⟩ : ∃ parts last, cut d 0 cs = parts ++ [last] :=
    ⟨_, _, (List.dropLast_concat_getLast (cut_ne_nil d 0 cs)).symm⟩
  simp only [hparts, List.getLast_append_singleton] at whole ⊢
  rw [List.drop_zero] at whole
  by_cases none : parts = []
  · rw [none, List.nil_append, List.intercalate_singleton] at whole
    exact whole ▸ h
  · rw [intercalate_concat none] at whole
    rcases List.suffix_or_suffix_of_suffix h ⟨_, whole⟩ with inside | around
    · exact suffix_of_suffix_append clear inside
    · obtain ⟨c, rest, rfl⟩ := List.exists_cons_of_ne_nil ne
      exact absurd List.mem_cons_self
        (clear c (around.subset (List.mem_append_left _ List.mem_cons_self)))

/-! ## Texts -/

theorem splitChars_eq_cut (ne : d ≠ []) (cs : List Char) : splitChars d cs = cut d 0 cs := by
  cases d with
  | nil => exact absurd rfl ne
  | cons c d => rfl

variable {delimiter : String}

theorem toList_ne_nil (filled : delimiter ≠ "") : delimiter.toList ≠ [] :=
  mt String.toList_eq_nil_iff.1 filled

theorem split_eq (filled : delimiter ≠ "") (text : String) :
    split delimiter text = (cut delimiter.toList 0 text.toList).map String.ofList := by
  rw [split, splitChars_eq_cut (toList_ne_nil filled)]

theorem split_join (filled : delimiter ≠ "") {parts : List String} (ne : parts ≠ [])
    (free : ∀ p ∈ parts, ∀ c ∈ p.toList, delimiter.toList.head? ≠ some c) :
    split delimiter (join delimiter parts) = parts := by
  obtain ⟨part, rest, rfl⟩ := List.exists_cons_of_ne_nil ne
  have found := cut_intercalate (toList_ne_nil filled) part.toList (rest.map String.toList)
    fun p hp => by
      obtain ⟨q, hq, rfl⟩ := List.mem_map.1 (List.map_cons ▸ hp)
      exact free q hq
  rw [split_eq filled, join, String.toList_ofList, List.map_cons, found]
  simp

theorem join_split (filled : delimiter ≠ "") (text : String) :
    join delimiter (split delimiter text) = text := by
  rw [split_eq filled, join, List.map_map]
  have same : String.toList ∘ String.ofList = id := funext fun _ => String.toList_ofList
  rw [same, List.map_id, intercalate_cut (toList_ne_nil filled), List.drop_zero,
    String.ofList_toList]

end HydroArchive.Text
