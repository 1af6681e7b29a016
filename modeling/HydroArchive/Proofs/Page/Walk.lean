import Mathlib.Data.List.Nodup
import HydroArchive.Page.Query

/-!
# Walking through a listing

A listing is handed out in portions: each holds the rows that come next in the order of their keys,
and the next one starts strictly after its last key.  Between two portions the listing may change.

This module is about the rows alone.  How portions travel as pages and cursors is the matter of the
retrieval modules, which show that their pages hold the portions described here.

## Main definitions

* `KeyOrder` — the order of a listing.
* `Resume.rest` — the rows that are still to come at a place.
* `portion`, `portions` — one portion, and those of a walk through a listing that may change.
* `pageCount` — how many portions a listing that does not change has.

## Main statements

* `ascending_portions` — no key comes twice, and keys ascend from portion to portion.
* `exists_mem_handedOut`, `mem_handedOut` — a walk that ends has handed out every key, and every
  row, that was there all the time.
* `portions_of_unchanged` — a walk through a listing that does not change.
-/

namespace HydroArchive

/-- A strict order of keys. -/
structure KeyOrder (κ : Type) where
  before : κ → κ → Bool
  irrefl : ∀ k, before k k = false
  trans : ∀ {a b c}, before a b = true → before b c = true → before a c = true

theorem KeyOrder.asymm {κ : Type} (o : KeyOrder κ) {a b : κ} (h : o.before a b = true) :
    o.before b a = false := by
  by_contra k
  have loop := o.trans h (by simpa using k)
  rw [o.irrefl] at loop
  cases loop

variable {ρ κ : Type} (o : KeyOrder κ) (key : ρ → κ)

/-- Each row stands strictly before all that follow. -/
def Ascending (rows : List ρ) : Prop := rows.Pairwise fun a b => o.before (key a) (key b) = true

variable {o key} in
theorem Ascending.nodup_keys {rows : List ρ} (h : Ascending o key rows) : (rows.map key).Nodup :=
  List.pairwise_map.2 <| h.imp fun before he => by
    rw [he, o.irrefl] at before
    cases before

variable {o key} in
/-- Of two rows of an ascending list with the same key there is only one. -/
theorem Ascending.eq_of_key {rows : List ρ} (h : Ascending o key rows) {a b : ρ} (ha : a ∈ rows)
    (hb : b ∈ rows) (same : key a = key b) : a = b :=
  List.inj_on_of_nodup_map h.nodup_keys ha hb same

/-- The keys that are still to come at a place. -/
def Resume.admits (place : Resume κ) (k : κ) : Bool :=
  match place with
  | .start => true
  | .after last => o.before last k

/-- The rows of a listing that are still to come at a place. -/
def Resume.rest (place : Resume κ) (rows : List ρ) : List ρ :=
  rows.filter fun r => place.admits o (key r)

/-- Rows that are handed out together and, where there are more, the last of their keys. -/
structure Portion (ρ κ : Type) where
  rows : List ρ
  next : Option κ

/-- The portion of a listing at a place. -/
def portion (size : Nat) (place : Resume κ) (rows : List ρ) : Portion ρ κ where
  rows := (place.rest o key rows).take size
  next :=
    if size < (place.rest o key rows).length then
      ((place.rest o key rows).take size).getLast?.map key
    else none

/-- The portions of a walk, one for each state in which the listing is met, until there are no more
rows. -/
def portions (size : Nat) : Resume κ → List (List ρ) → List (Portion ρ κ)
  | _, [] => []
  | place, rows :: later =>
    portion o key size place rows :: match (portion o key size place rows).next with
      | none => []
      | some k => portions size (.after k) later

/-- The number of portions of a listing with `n` rows. -/
def pageCount (size n : Nat) : Nat := max 1 ((n + size - 1) / size)

theorem pageCount_of_le {size n : Nat} (h : n ≤ size) : pageCount size n = 1 := by
  have : (n + size - 1) / size ≤ 1 := by
    by_cases pos : 0 < size
    · exact Nat.lt_succ_iff.1 (Nat.div_lt_of_lt_mul (by omega))
    · have : size = 0 := by omega
      simp [this]
  rw [pageCount]
  omega

theorem pageCount_of_lt {size n : Nat} (pos : 0 < size) (h : size < n) :
    pageCount size n = pageCount size (n - size) + 1 := by
  have split : n + size - 1 = (n - size + size - 1) + size := by omega
  have one : 1 ≤ (n - size + size - 1) / size := (Nat.le_div_iff_mul_le pos).2 (by omega)
  rw [pageCount, pageCount, split, Nat.add_div_right _ pos]
  omega

/-! ## One portion -/

section Portion

variable {o key} {size : Nat} {place : Resume κ} {rows : List ρ}

@[simp] theorem Resume.rest_start : Resume.start.rest o key rows = rows :=
  List.filter_eq_self.2 fun _ _ => rfl

@[simp] theorem Resume.mem_rest {r : ρ} :
    r ∈ place.rest o key rows ↔ r ∈ rows ∧ place.admits o (key r) = true := List.mem_filter

theorem Resume.admits_trans {a b : κ} (h : place.admits o a = true) (k : o.before a b = true) :
    place.admits o b = true := by
  cases place with
  | start => rfl
  | after last => exact o.trans h k

theorem Ascending.rest (h : Ascending o key rows) (place : Resume κ) :
    Ascending o key (place.rest o key rows) := h.filter _

theorem portion_next_eq_none (pos : 0 < size) :
    (portion o key size place rows).next = none ↔ (place.rest o key rows).length ≤ size := by
  rw [portion]
  split
  case isTrue h =>
    have filled : (place.rest o key rows).take size ≠ [] := by
      intro he
      have := congrArg List.length he
      simp only [List.length_take, List.length_nil] at this
      omega
    simp [filled, List.getLast?_eq_none_iff]
    omega
  case isFalse h => simp; omega

theorem lt_length_of_next {k : κ} (h : (portion o key size place rows).next = some k) :
    size < (place.rest o key rows).length := by
  rw [portion] at h
  split at h
  case isTrue more => exact more
  case isFalse => cases h

theorem rows_of_next_eq_none (pos : 0 < size) (h : (portion o key size place rows).next = none) :
    (portion o key size place rows).rows = place.rest o key rows :=
  List.take_of_length_le ((portion_next_eq_none pos).1 h)

/-- A portion that is not the last ends with a row of the next key. -/
theorem exists_last {k : κ} (h : (portion o key size place rows).next = some k) :
    ∃ init r, (portion o key size place rows).rows = init ++ [r] ∧ key r = k ∧
      (portion o key size place rows).rows.length = size ∧
      place.rest o key rows = init ++ r :: (place.rest o key rows).drop size := by
  rw [portion] at h
  split at h
  case isFalse => cases h
  case isTrue more =>
    obtain ⟨r, last, rfl⟩ := Option.map_eq_some_iff.1 h
    obtain ⟨init, taken⟩ := List.getLast?_eq_some_iff.1 last
    refine ⟨init, r, taken, rfl, ?_, ?_⟩
    · exact List.length_take_of_le (by omega)
    · have := List.take_append_drop size (place.rest o key rows)
      rw [taken] at this
      simpa using this.symm

theorem admits_of_mem_portion {r : ρ} (h : r ∈ (portion o key size place rows).rows) :
    place.admits o (key r) = true := (Resume.mem_rest.1 (List.mem_of_mem_take h)).2

theorem admits_next {k : κ} (h : (portion o key size place rows).next = some k) :
    place.admits o k = true := by
  obtain ⟨init, r, taken, rfl, -⟩ := exists_last h
  exact admits_of_mem_portion (taken ▸ List.mem_append_right init List.mem_cons_self)

theorem exists_mem_of_next {k : κ} (h : (portion o key size place rows).next = some k) :
    ∃ r ∈ rows, key r = k := by
  obtain ⟨init, r, taken, rfl, -⟩ := exists_last h
  have handed : r ∈ (portion o key size place rows).rows :=
    taken ▸ List.mem_append_right init List.mem_cons_self
  exact ⟨r, (Resume.mem_rest.1 (List.mem_of_mem_take handed)).1, rfl⟩

theorem le_next (asc : Ascending o key rows) {k : κ}
    (h : (portion o key size place rows).next = some k) {r : ρ}
    (hr : r ∈ (portion o key size place rows).rows) : key r = k ∨ o.before (key r) k = true := by
  obtain ⟨init, last, taken, rfl, -, split⟩ := exists_last h
  have sorted := asc.rest place
  rw [Ascending, split] at sorted
  rw [taken] at hr
  rcases List.mem_append.1 hr with hr | hr
  · exact Or.inr ((List.pairwise_append.1 sorted).2.2 r hr last List.mem_cons_self)
  · exact Or.inl (congrArg key (List.mem_singleton.1 hr))

/-- What is still to come after a portion of a listing that does not change. -/
theorem rest_after (asc : Ascending o key rows) {k : κ}
    (h : (portion o key size place rows).next = some k) :
    (Resume.after k).rest o key rows = (place.rest o key rows).drop size := by
  have admitted := admits_next h
  obtain ⟨init, last, -, rfl, -, split⟩ := exists_last h
  have sorted := asc.rest place
  rw [Ascending, split] at sorted
  have parts := List.pairwise_append.1 sorted
  have within : (Resume.after (key last)).rest o key rows
      = (place.rest o key rows).filter fun r => o.before (key last) (key r) := by
    simp only [Resume.rest, List.filter_filter]
    refine List.filter_congr fun r _ => ?_
    by_cases hr : o.before (key last) (key r) = true
    · rw [Resume.admits_trans admitted hr, Bool.and_true]
      rfl
    · rw [Bool.not_eq_true] at hr
      rw [hr, Bool.false_and]
      exact hr
  have front : init.filter (fun r => o.before (key last) (key r)) = [] := by
    refine List.filter_eq_nil_iff.2 fun r hr => ?_
    rw [o.asymm (parts.2.2 r hr last List.mem_cons_self)]
    exact Bool.false_ne_true
  have behind : ((place.rest o key rows).drop size).filter
      (fun r => o.before (key last) (key r)) = (place.rest o key rows).drop size :=
    List.filter_eq_self.2 fun r hr => (List.pairwise_cons.1 parts.2.1).1 r hr
  calc (Resume.after (key last)).rest o key rows
      = (place.rest o key rows).filter fun r => o.before (key last) (key r) := within
    _ = (init ++ last :: (place.rest o key rows).drop size).filter
          fun r => o.before (key last) (key r) := congrArg _ split
    _ = (place.rest o key rows).drop size := by
      rw [List.filter_append, front, List.filter_cons_of_neg (by simp [o.irrefl]), behind,
        List.nil_append]

end Portion

/-! ## Limits -/

theorem toNat_pos {pageSize : Int32} (pos : 0 < pageSize) : 0 < pageSize.toInt.toNat := by
  have := Int32.lt_iff_toInt_lt.1 pos
  rw [Int32.toInt_zero] at this
  omega

/-- The row too many shows whether there is another page, and it is not handed out. -/
theorem splitPage_takeLimit {pageSize : Int32} (pos : 0 < pageSize) (rows : List ρ) :
    splitPage (takeLimit (rowLimit pageSize) rows) pageSize
      = (rows.take pageSize.toInt.toNat, decide (pageSize.toInt.toNat < rows.length)) := by
  rw [rowLimit, if_pos pos, takeLimit_some, splitPage]
  by_cases more : pageSize.toInt.toNat < rows.length
  · have fetched : pageSize.toInt.toNat < (rows.take (pageSize.toInt.toNat + 1)).length := by
      rw [List.length_take]
      omega
    rw [if_pos ⟨pos, fetched⟩, List.take_take, Nat.min_eq_left (Nat.le_succ _), decide_eq_true more]
  · have fetched : ¬ pageSize.toInt.toNat < (rows.take (pageSize.toInt.toNat + 1)).length := by
      rw [List.length_take]
      omega
    rw [if_neg fun h => fetched h.2, List.take_of_length_le (by omega),
      List.take_of_length_le (by omega), decide_eq_false more]

/-- Without a positive page size, all rows are on one page. -/
theorem splitPage_takeLimit_whole {pageSize : Int32} (unbounded : ¬ 0 < pageSize) (rows : List ρ) :
    splitPage (takeLimit (rowLimit pageSize) rows) pageSize = (rows, false) := by
  rw [rowLimit, if_neg unbounded, takeLimit_none, splitPage, if_neg fun h => unbounded h.1]

/-! ## A walk -/

section Portions

variable {o key} {size : Nat} {place : Resume κ} {ls : List (List ρ)} {p : Portion ρ κ}

/-- The rows of all portions, in the order in which they are handed out. -/
def handedOut (ps : List (Portion ρ κ)) : List ρ := ps.flatMap Portion.rows

@[simp] theorem handedOut_nil : handedOut ([] : List (Portion ρ κ)) = [] := rfl

@[simp] theorem handedOut_cons (p : Portion ρ κ) (ps : List (Portion ρ κ)) :
    handedOut (p :: ps) = p.rows ++ handedOut ps := List.flatMap_cons

/-- Whether the last portion says that there are no more rows. -/
def Ended (ps : List (Portion ρ κ)) : Prop := ps.getLast?.map Portion.next = some none

theorem ended_cons {k : κ} (h : p.next = some k) {ps : List (Portion ρ κ)} :
    Ended (p :: ps) ↔ Ended ps := by
  cases ps with
  | nil => simp [Ended, h]
  | cons q qs => rw [Ended, Ended, List.getLast?_cons_cons]

theorem portions_of_next_eq_none {rows : List ρ}
    (h : (portion o key size place rows).next = none) :
    portions o key size place (rows :: ls) = [portion o key size place rows] := by
  rw [portions, h]

theorem portions_of_next_eq_some {rows : List ρ} {k : κ}
    (h : (portion o key size place rows).next = some k) :
    portions o key size place (rows :: ls)
      = portion o key size place rows :: portions o key size (.after k) ls := by
  rw [portions, h]

/-- A walk takes one portion of a listing at a time. -/
theorem exists_portion_of_mem (h : p ∈ portions o key size place ls) :
    ∃ q, ∃ rows ∈ ls, p = portion o key size q rows := by
  induction ls generalizing place with
  | nil => cases h
  | cons rows ls ih =>
    rw [portions] at h
    rcases List.mem_cons.1 h with rfl | h
    · exact ⟨place, rows, List.mem_cons_self, rfl⟩
    · split at h
      · cases h
      · obtain ⟨q, met, hm, rfl⟩ := ih h
        exact ⟨q, met, List.mem_cons_of_mem _ hm, rfl⟩

/-- What is handed out was in the listing at some time. -/
theorem exists_mem_of_mem_handedOut {r : ρ} (h : r ∈ handedOut (portions o key size place ls)) :
    ∃ rows ∈ ls, r ∈ rows := by
  obtain ⟨p, hp, hr⟩ := List.mem_flatMap.1 h
  obtain ⟨q, rows, hrows, rfl⟩ := exists_portion_of_mem hp
  exact ⟨rows, hrows, (Resume.mem_rest.1 (List.mem_of_mem_take hr)).1⟩

/-- A portion after which there are more rows is full. -/
theorem length_of_next_isSome (h : p ∈ portions o key size place ls) (more : p.next.isSome) :
    p.rows.length = size := by
  obtain ⟨q, rows, -, rfl⟩ := exists_portion_of_mem h
  obtain ⟨k, hk⟩ := Option.isSome_iff_exists.1 more
  obtain ⟨-, -, -, -, full, -⟩ := exists_last hk
  exact full

/-- Only the last portion of a walk says that there are no more rows. -/
theorem next_isSome_of_mem_dropLast (h : p ∈ (portions o key size place ls).dropLast) :
    p.next.isSome := by
  induction ls generalizing place with
  | nil => cases h
  | cons rows ls ih =>
    cases hn : (portion o key size place rows).next with
    | none =>
      rw [portions_of_next_eq_none hn] at h
      cases h
    | some k =>
      rw [portions_of_next_eq_some hn] at h
      by_cases alone : portions o key size (.after k) ls = []
      · rw [alone] at h
        cases h
      · rw [List.dropLast_cons_of_ne_nil alone] at h
        rcases List.mem_cons.1 h with rfl | h
        · rw [hn]
          rfl
        · exact ih h

theorem admits_of_mem_handedOut (asc : ∀ rows ∈ ls, Ascending o key rows) {r : ρ}
    (h : r ∈ handedOut (portions o key size place ls)) : place.admits o (key r) = true := by
  induction ls generalizing place with
  | nil => cases h
  | cons rows ls ih =>
    rw [portions, handedOut_cons] at h
    rcases List.mem_append.1 h with h | h
    · exact admits_of_mem_portion h
    · split at h
      case h_1 => cases h
      case h_2 k hk =>
        have later := ih (fun l hl => asc l (List.mem_cons_of_mem _ hl)) h
        exact Resume.admits_trans (admits_next hk) later

variable (size place) in
/-- Keys ascend through all portions, however the listing changes between them. -/
theorem ascending_portions (asc : ∀ rows ∈ ls, Ascending o key rows) :
    Ascending o key (handedOut (portions o key size place ls)) := by
  induction ls generalizing place with
  | nil => exact List.Pairwise.nil
  | cons rows ls ih =>
    have here := asc rows List.mem_cons_self
    have later : ∀ l ∈ ls, Ascending o key l := fun l hl => asc l (List.mem_cons_of_mem _ hl)
    have taken : Ascending o key (portion o key size place rows).rows :=
      (here.rest place).sublist (List.take_sublist _ _)
    cases hn : (portion o key size place rows).next with
    | none =>
      rw [portions_of_next_eq_none hn]
      simpa using taken
    | some k =>
      rw [portions_of_next_eq_some hn, handedOut_cons]
      refine List.pairwise_append.2 ⟨taken, ih (.after k) later, fun a ha b hb => ?_⟩
      have after : o.before k (key b) = true := admits_of_mem_handedOut later hb
      rcases le_next here hn ha with same | before
      · rwa [same]
      · exact o.trans before after

variable (place) in
/-- A walk that ends has handed out every key that was in the listing all the time. -/
theorem exists_mem_handedOut (pos : 0 < size) (asc : ∀ rows ∈ ls, Ascending o key rows) {k : κ}
    (always : ∀ rows ∈ ls, ∃ r ∈ rows, key r = k) (admitted : place.admits o k = true)
    (ended : Ended (portions o key size place ls)) :
    ∃ r ∈ handedOut (portions o key size place ls), key r = k := by
  induction ls generalizing place with
  | nil => cases ended
  | cons rows ls ih =>
    obtain ⟨r, hr, rfl⟩ := always rows List.mem_cons_self
    have still : r ∈ place.rest o key rows := Resume.mem_rest.2 ⟨hr, admitted⟩
    cases hn : (portion o key size place rows).next with
    | none =>
      rw [portions_of_next_eq_none hn, handedOut_cons, handedOut_nil, List.append_nil,
        rows_of_next_eq_none pos hn]
      exact ⟨r, still, rfl⟩
    | some last =>
      rw [portions_of_next_eq_some hn] at ended ⊢
      by_cases hl : o.before last (key r) = true
      · -- the key is still to come, so the rest of the walk hands it out
        obtain ⟨s, hs, same⟩ := ih (.after last)
          (fun l h => asc l (List.mem_cons_of_mem _ h))
          (fun l h => always l (List.mem_cons_of_mem _ h)) hl ((ended_cons hn).1 ended)
        rw [handedOut_cons]
        exact ⟨s, List.mem_append_right _ hs, same⟩
      · -- what is left behind by this portion starts after its last key
        rw [← List.take_append_drop size (place.rest o key rows)] at still
        rcases List.mem_append.1 still with taken | left
        · rw [handedOut_cons]
          exact ⟨r, List.mem_append_left _ taken, rfl⟩
        · rw [← rest_after (asc rows List.mem_cons_self) hn] at left
          exact absurd (Resume.mem_rest.1 left).2 hl

variable (place) in
/-- A walk that ends has handed out every row that was in the listing all the time. -/
theorem mem_handedOut (pos : 0 < size) (asc : ∀ rows ∈ ls, Ascending o key rows) {r : ρ}
    (always : ∀ rows ∈ ls, r ∈ rows) (admitted : place.admits o (key r) = true)
    (ended : Ended (portions o key size place ls)) :
    r ∈ handedOut (portions o key size place ls) := by
  obtain ⟨s, hs, same⟩ := exists_mem_handedOut place pos asc
    (fun rows hrows => ⟨r, always rows hrows, rfl⟩) admitted ended
  obtain ⟨rows, hrows, mem⟩ := exists_mem_of_mem_handedOut hs
  rwa [(asc rows hrows).eq_of_key mem (always rows hrows) same] at hs

/-- A listing that does not change is handed out in as many portions as it takes. -/
theorem length_portions_of_unchanged (pos : 0 < size) {rows : List ρ}
    (asc : Ascending o key rows) (same : ∀ l ∈ ls, l = rows) :
    (portions o key size place ls).length
      = min ls.length (pageCount size (place.rest o key rows).length) := by
  induction ls generalizing place with
  | nil => simp [portions]
  | cons l ls ih =>
    obtain rfl := same l List.mem_cons_self
    cases hn : (portion o key size place l).next with
    | none =>
      rw [portions_of_next_eq_none hn, pageCount_of_le ((portion_next_eq_none pos).1 hn)]
      simp
    | some k =>
      rw [portions_of_next_eq_some hn, List.length_cons,
        ih fun l hl => same l (List.mem_cons_of_mem _ hl), rest_after asc hn, List.length_drop,
        pageCount_of_lt pos (lt_length_of_next hn), List.length_cons, Nat.add_min_add_right]

variable (place) in
/-- The portions of a listing that does not change are the whole listing, if the walk is long
enough. -/
theorem portions_of_unchanged (pos : 0 < size) {rows : List ρ} (asc : Ascending o key rows)
    (same : ∀ l ∈ ls, l = rows)
    (enough : pageCount size (place.rest o key rows).length ≤ ls.length) :
    Ended (portions o key size place ls) ∧
      handedOut (portions o key size place ls) = place.rest o key rows := by
  induction ls generalizing place with
  | nil => simp [pageCount] at enough
  | cons l ls ih =>
    obtain rfl := same l List.mem_cons_self
    cases hn : (portion o key size place l).next with
    | none =>
      rw [portions_of_next_eq_none hn, handedOut_cons, handedOut_nil, List.append_nil,
        rows_of_next_eq_none pos hn]
      exact ⟨congrArg some hn, rfl⟩
    | some k =>
      rw [pageCount_of_lt pos (lt_length_of_next hn), List.length_cons, ← List.length_drop,
        ← rest_after asc hn] at enough
      obtain ⟨ended, all⟩ := ih (.after k) (fun l hl => same l (List.mem_cons_of_mem _ hl))
        (Nat.le_of_succ_le_succ enough)
      rw [rest_after asc hn] at all
      rw [portions_of_next_eq_some hn, ended_cons hn, handedOut_cons, all]
      exact ⟨ended, List.take_append_drop size _⟩

end Portions

end HydroArchive
