import HydroArchive.Text.Upper

/-!
# Sorting by columns

Listings are sorted by text columns, and rows with equal columns keep their order.  These two facts
determine the result: a list is the sorted one as soon as its columns ascend and, for every value of
the columns, it has the same rows with that value in the same order.

## Main definitions

* `SortedBy` — the result of sorting, said without sorting.

## Main statements

* `filter_mergeSort_of_tied` — sorting is stable.
* `sortedBy_sortByColumns` — sorting gives such a list, and `SortedBy.unique` no other is one.
* `filter_sortByColumns` — leaving rows out before or after sorting is the same.
-/

namespace HydroArchive.Text

/-! ## The order of columns -/

theorem columnsLE_trans {a b c : List String} (h : columnsLE a b) (k : columnsLE b c) :
    columnsLE a c := Std.TransCmp.isLE_trans h k

theorem columnsLE_total (a b : List String) : columnsLE a b || columnsLE b a := by
  have swap : compare b a = (compare a b).swap := Std.OrientedCmp.eq_swap
  rw [columnsLE, columnsLE, swap]
  cases compare a b <;> rfl

theorem columnsLE_antisymm {a b : List String} (h : columnsLE a b) (k : columnsLE b a) : a = b :=
  Std.LawfulEqCmp.eq_of_compare (Std.OrientedCmp.isLE_antisymm h k)

theorem compare_eq_lt {a b : List String} (h : columnsLE a b) (ne : a ≠ b) :
    compare a b = .lt := by
  have noEq : compare a b ≠ .eq := fun he => ne (Std.LawfulEqCmp.eq_of_compare he)
  rw [columnsLE] at h
  cases hc : compare a b with
  | lt => rfl
  | eq => exact absurd hc noEq
  | gt => rw [hc] at h; cases h

/-! ## Sorted lists -/

variable {α : Type} {columns : α → List String}

/-- Rows that may stand in any order among themselves keep theirs when they are sorted together
with others. -/
theorem filter_mergeSort_of_tied {le : α → α → Bool} (trans : ∀ a b c, le a b → le b c → le a c)
    (total : ∀ a b, le a b || le b a) {p : α → Bool} (tied : ∀ a b, p a → p b → le a b)
    (source : List α) : (source.mergeSort le).filter p = source.filter p := by
  have perm : (source.mergeSort le).Perm source := List.mergeSort_perm _ _
  -- the rows are in order already, so sorting keeps them as a sublist
  have ordered : (source.filter p).Pairwise fun a b => le a b = true := by
    refine List.pairwise_of_forall_mem_list fun a ha b hb => ?_
    exact tied a b (List.mem_filter.1 ha).2 (List.mem_filter.1 hb).2
  have kept : (source.filter p).Sublist (source.mergeSort le) :=
    List.sublist_mergeSort trans total ordered List.filter_sublist
  have inside := kept.filter p
  simp only [List.filter_filter, Bool.and_self] at inside
  exact (inside.eq_of_length (perm.filter p).length_eq.symm).symm

/-- The rows are those of `source` in the order of their columns, where rows with equal columns keep
their order. -/
structure SortedBy (columns : α → List String) (source rows : List α) : Prop where
  ascending : rows.Pairwise fun a b => columnsLE (columns a) (columns b)
  stable : ∀ c, rows.filter (columns · = c) = source.filter (columns · = c)

/-- Two ascending lists with the same rows for each value of the columns are the same. -/
theorem eq_of_ascending {xs ys : List α}
    (hx : xs.Pairwise fun a b => columnsLE (columns a) (columns b))
    (hy : ys.Pairwise fun a b => columnsLE (columns a) (columns b))
    (same : ∀ c, xs.filter (columns · = c) = ys.filter (columns · = c)) : xs = ys := by
  induction xs generalizing ys with
  | nil =>
    cases ys with
    | nil => rfl
    | cons y ys => simpa using same (columns y)
  | cons x xs ih =>
    cases ys with
    | nil => simpa using same (columns x)
    | cons y ys =>
      have hx' := List.pairwise_cons.1 hx
      have hy' := List.pairwise_cons.1 hy
      have inYs : x ∈ y :: ys := by
        have := congrArg (x ∈ ·) (same (columns x))
        simpa using this
      have inXs : y ∈ x :: xs := by
        have := congrArg (y ∈ ·) (same (columns y))
        simpa using this
      -- the two heads are each at most the other, so their columns are equal
      have xy : columnsLE (columns x) (columns y) := by
        rcases List.mem_cons.1 inXs with rfl | h
        · simpa using columnsLE_total (columns y) (columns y)
        · exact hx'.1 y h
      have yx : columnsLE (columns y) (columns x) := by
        rcases List.mem_cons.1 inYs with rfl | h
        · simpa using columnsLE_total (columns x) (columns x)
        · exact hy'.1 x h
      have heads : columns x = columns y := columnsLE_antisymm xy yx
      have atHead := same (columns x)
      rw [List.filter_cons_of_pos (by simp), List.filter_cons_of_pos (by simp [heads])] at atHead
      have first : x = y := (List.cons.inj atHead).1
      subst first
      congr 1
      refine ih hx'.2 hy'.2 fun c => ?_
      have atC := same c
      by_cases hc : columns x = c
      · rw [List.filter_cons_of_pos (by simp [hc]), List.filter_cons_of_pos (by simp [hc])] at atC
        exact (List.cons.inj atC).2
      · rwa [List.filter_cons_of_neg (by simp [hc]), List.filter_cons_of_neg (by simp [hc])] at atC

theorem SortedBy.unique {source xs ys : List α} (hx : SortedBy columns source xs)
    (hy : SortedBy columns source ys) : xs = ys :=
  eq_of_ascending hx.ascending hy.ascending fun c => (hx.stable c).trans (hy.stable c).symm

theorem sortedBy_sortByColumns (columns : α → List String) (source : List α) :
    SortedBy columns source (sortByColumns columns source) where
  ascending := List.pairwise_mergeSort
    (fun a b c => @columnsLE_trans (columns a) (columns b) (columns c))
    (fun a b => columnsLE_total (columns a) (columns b)) source
  stable c := by
    refine filter_mergeSort_of_tied
      (fun a b c => @columnsLE_trans (columns a) (columns b) (columns c))
      (fun a b => columnsLE_total (columns a) (columns b)) (fun a b ha hb => ?_) source
    have ha : columns a = c := by simpa using ha
    have hb : columns b = c := by simpa using hb
    rw [ha, hb]
    simpa using columnsLE_total c c

theorem sortByColumns_perm (columns : α → List String) (source : List α) :
    (sortByColumns columns source).Perm source := List.mergeSort_perm _ _

/-- Leaving rows out keeps a sorted list sorted. -/
theorem SortedBy.filter {source rows : List α} (h : SortedBy columns source rows) (p : α → Bool) :
    SortedBy columns (source.filter p) (rows.filter p) where
  ascending := h.ascending.filter p
  stable c := by
    have swap : ∀ l : List α, (l.filter p).filter (columns · = c)
        = (l.filter (columns · = c)).filter p := by
      intro l
      simp only [List.filter_filter, Bool.and_comm]
    rw [swap, swap, h.stable c]

/-- Leaving rows out before or after sorting is the same. -/
theorem filter_sortByColumns (columns : α → List String) (p : α → Bool) (source : List α) :
    (sortByColumns columns source).filter p = sortByColumns columns (source.filter p) :=
  ((sortedBy_sortByColumns columns source).filter p).unique (sortedBy_sortByColumns columns _)

end HydroArchive.Text
