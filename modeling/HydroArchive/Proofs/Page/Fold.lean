import Mathlib.Data.List.Basic
import Mathlib.Data.List.Induction
import Mathlib.Data.List.Nodup
import HydroArchive.Page.Fold

/-!
# Folding puts the rows of a parent together

What a folder holds after some rows can be said without folding: there is one aggregate for each key
among the rows, in the order in which the keys first occur.  It has the parent that the first row
with the key has, and the children of all rows with the key in the order of these rows.  The table
says at which place among the keys each of them stands.  One more row keeps this, so it holds after
any rows.

## Main definitions

* `Join.keys` — the keys of rows, each once.
* `Join.aggregate?` — what rows say about the parent with a key.
* `Folder.Holds` — that a folder holds what rows say.

## Main statements

* `Folder.Holds.push`, `Folder.holds_foldl_push` — one more row, and any rows.
* `fold_cons` — the first aggregate, and the rest.
* `filter_fold` — leaving parents out before or after folding.
* `fold_flatMap` — rows that come parent by parent fold into these parents.
-/

namespace HydroArchive

variable {ρ κ π γ : Type} [DecidableEq κ]

/-! ## Grouping -/

namespace Join

variable {j : Join ρ κ π γ} {rows : List ρ} {row : ρ} {k : κ}

/-- The keys of rows, each once, in the order in which they first occur. -/
def keys (j : Join ρ κ π γ) (rows : List ρ) : List κ := (rows.map j.key).eraseDups

/-- What rows say about the parent with a key: the parent as the first of its rows has it, and the
children of all its rows in their order. -/
def aggregate? (j : Join ρ κ π γ) (rows : List ρ) (k : κ) : Option (Aggregate π γ) :=
  (rows.find? fun r => j.key r = k).map fun first =>
    ⟨j.parent first, (rows.filter fun r => j.key r = k).filterMap j.child⟩

theorem keys_cons (j : Join ρ κ π γ) (row : ρ) (rows : List ρ) :
    j.keys (row :: rows) = j.key row :: j.keys (rows.filter (j.key · ≠ j.key row)) := by
  rw [keys, keys, List.map_cons, List.eraseDups_cons, List.filter_map]
  simp only [decide_not]
  rfl

theorem keys_concat_of_mem (known : j.key row ∈ j.keys rows) :
    j.keys (rows ++ [row]) = j.keys rows := by
  have known := List.mem_eraseDups.1 known
  rw [keys, List.map_append, List.eraseDups_append, List.map_singleton, List.removeAll,
    List.filter_cons_of_neg (by simpa using known)]
  exact List.append_nil _

theorem keys_concat_of_notMem (new : j.key row ∉ j.keys rows) :
    j.keys (rows ++ [row]) = j.keys rows ++ [j.key row] := by
  have new := mt List.mem_eraseDups.2 new
  rw [keys, List.map_append, List.eraseDups_append, List.map_singleton, List.removeAll,
    List.filter_cons_of_pos (by simpa using new)]
  rfl

theorem nodup_keys (j : Join ρ κ π γ) (rows : List ρ) : (j.keys rows).Nodup := by
  induction rows using List.reverseRecOn with
  | nil => exact List.nodup_nil
  | append_singleton rows row ih =>
    by_cases known : j.key row ∈ j.keys rows
    · rwa [keys_concat_of_mem known]
    · rw [keys_concat_of_notMem known, ← List.concat_eq_append]
      exact ih.concat known

theorem aggregate?_cons_self (j : Join ρ κ π γ) (row : ρ) (rows : List ρ) :
    j.aggregate? (row :: rows) (j.key row)
      = some ⟨j.parent row, (j.child row).toList ++
          (rows.filter (j.key · = j.key row)).filterMap j.child⟩ := by
  cases child : j.child row <;> simp [aggregate?, child]

/-- Without the rows of one parent, what the rows say about the others is the same. -/
theorem aggregate?_filter_of_ne (other : k ≠ j.key row) :
    j.aggregate? (rows.filter (j.key · ≠ j.key row)) k = j.aggregate? (row :: rows) k := by
  have apart (r : ρ) (here : j.key r = k) : j.key r ≠ j.key row := here ▸ other
  rw [aggregate?, aggregate?, List.find?_cons_of_neg (by simpa using Ne.symm other),
    List.filter_cons_of_neg (by simpa using Ne.symm other), List.find?_filter, List.filter_filter]
  simp only [← Bool.decide_and, decide_eq_true_eq, and_iff_left_of_imp (apart _),
    and_iff_right_of_imp (apart _)]

/-- A row says nothing about the parents with other keys. -/
theorem aggregate?_concat_of_ne (other : j.key row ≠ k) :
    j.aggregate? (rows ++ [row]) k = j.aggregate? rows k := by
  simp [aggregate?, List.find?_append, other]

/-- A row adds its child to those of the rows before it. -/
theorem aggregate?_concat_of_some {a : Aggregate π γ}
    (known : j.aggregate? rows (j.key row) = some a) :
    j.aggregate? (rows ++ [row]) (j.key row) = some (a.add (j.child row)) := by
  obtain ⟨first, found, rfl⟩ := Option.map_eq_some_iff.1 known
  rw [aggregate?, List.find?_append, found, List.filter_append, List.filterMap_append]
  cases child : j.child row <;> simp [Aggregate.add, child]

/-- The first row with a key brings the parent. -/
theorem aggregate?_concat_of_notMem (new : j.key row ∉ j.keys rows) :
    j.aggregate? (rows ++ [row]) (j.key row)
      = some ((⟨j.parent row, []⟩ : Aggregate π γ).add (j.child row)) := by
  have apart : ∀ r ∈ rows, ¬ j.key r = j.key row := fun r mem same =>
    new (List.mem_eraseDups.2 (List.mem_map.2 ⟨r, mem, same⟩))
  have none : rows.find? (fun r => j.key r = j.key row) = none := by simpa using apart
  have nil : rows.filter (fun r => j.key r = j.key row) = [] := by simpa using apart
  rw [aggregate?, List.find?_append, none, List.filter_append, nil]
  cases child : j.child row <;> simp [Aggregate.add, child]

end Join

/-! ## The folder -/

section Folder

variable [Hashable κ]

namespace Folder

variable {j : Join ρ κ π γ} {rows : List ρ} {row : ρ} {f : Folder κ π γ} {place : Nat}

/-- That a folder holds what rows say. -/
structure Holds (j : Join ρ κ π γ) (rows : List ρ) (f : Folder κ π γ) : Prop where
  /-- There is an aggregate for each key, in their order. -/
  aggregates : f.aggregates.toList.map some = (j.keys rows).map (j.aggregate? rows)
  /-- The table points at the aggregate of the key. -/
  places : ∀ k, f.places[k]? = (j.keys rows).idxOf? k

theorem push_of_known (known : f.places[j.key row]? = some place) :
    f.push j row = ⟨f.places, f.aggregates.modify place (·.add (j.child row))⟩ := by
  rw [push, locate, known]

theorem push_of_new (new : f.places[j.key row]? = none) :
    f.push j row = ⟨f.places.insert (j.key row) f.size,
      f.aggregates.push ((⟨j.parent row, []⟩ : Aggregate π γ).add (j.child row))⟩ := by
  have last (a : Aggregate π γ) : (f.aggregates.push a).modify f.size (·.add (j.child row))
      = f.aggregates.push (a.add (j.child row)) := by
    refine Array.ext' ?_
    simp [size, List.modify_eq_take_cons_drop]
  rw [push, locate, new]
  exact congrArg (Folder.mk _) (last _)

theorem holds_empty : Holds j [] empty := ⟨rfl, fun _ => Std.HashMap.getElem?_empty⟩

/-- As many parents as there are keys. -/
theorem Holds.size_eq (h : Holds j rows f) : f.size = (j.keys rows).length := by
  simpa [size] using congrArg List.length h.aggregates

theorem Holds.finish_eq (h : Holds j rows f) :
    f.finish.map some = (j.keys rows).map (j.aggregate? rows) := h.aggregates

/-- At the place of a key stands its aggregate. -/
theorem Holds.getElem?_map_some (h : Holds j rows f) (place : Nat) :
    f.aggregates[place]?.map some = (j.keys rows)[place]?.map (j.aggregate? rows) := by
  simpa using congrArg (·[place]?) h.aggregates

/-- A row whose key is known adds its child to the aggregate that the table points at. -/
theorem Holds.push_of_known (h : Holds j rows f) (known : f.places[j.key row]? = some place) :
    Holds j (rows ++ [row]) (f.push j row) := by
  obtain ⟨inside, here, -⟩ := List.idxOf?_eq_some_iff.1 ((h.places _).symm.trans known)
  have here : (j.keys rows)[place]? = some (j.key row) := List.getElem?_eq_some_iff.2 ⟨inside, here⟩
  have keys := Join.keys_concat_of_mem (List.mem_of_getElem? here)
  rw [Folder.push_of_known known]
  refine ⟨List.ext_getElem? fun n => ?_, fun k => keys ▸ h.places k⟩
  have before := h.getElem?_map_some n
  rw [keys, List.getElem?_map, Array.toList_modify, List.getElem?_modify, List.getElem?_map,
    Array.getElem?_toList]
  by_cases same : place = n
  · subst same
    rw [here] at before ⊢
    obtain ⟨a, stands, said⟩ := Option.map_eq_some_iff.1 before
    rw [stands, Option.map_some, Join.aggregate?_concat_of_some said.symm]
    simp
  · simp only [if_neg same, id_map']
    rw [before]
    refine Option.map_congr fun k atPlace => (Join.aggregate?_concat_of_ne ?_).symm
    -- Keys do not repeat, so the one that stands elsewhere is another.
    rintro rfl
    exact same ((List.getElem?_inj inside (j.nodup_keys rows)).1 (here.trans atPlace.symm))

/-- A row whose key is new brings an aggregate, and the table points at it. -/
theorem Holds.push_of_new (h : Holds j rows f) (new : f.places[j.key row]? = none) :
    Holds j (rows ++ [row]) (f.push j row) := by
  have absent := List.idxOf?_eq_none_iff.1 ((h.places _).symm.trans new)
  rw [Folder.push_of_new new]
  refine ⟨?_, fun k => ?_⟩
  · have before : (j.keys rows).map (j.aggregate? (rows ++ [row]))
        = (j.keys rows).map (j.aggregate? rows) := by
      refine List.map_congr_left fun k listed => Join.aggregate?_concat_of_ne ?_
      rintro rfl
      exact absent listed
    rw [Join.keys_concat_of_notMem absent, Array.toList_push, List.map_append, List.map_append,
      before, ← h.aggregates, List.map_singleton, List.map_singleton,
      Join.aggregate?_concat_of_notMem absent]
  · rw [Join.keys_concat_of_notMem absent, List.idxOf?, List.findIdx?_append, ← List.idxOf?,
      ← h.places, Std.HashMap.getElem?_insert, h.size_eq]
    by_cases here : j.key row = k
    · subst here
      simp [new]
    · simp [here]

/-- One more row. -/
theorem Holds.push (h : Holds j rows f) (row : ρ) : Holds j (rows ++ [row]) (f.push j row) := by
  cases found : f.places[j.key row]? with
  | some place => exact h.push_of_known found
  | none => exact h.push_of_new found

/-- Any rows. -/
theorem holds_foldl_push (j : Join ρ κ π γ) (rows : List ρ) :
    Holds j rows (rows.foldl (Folder.push j) empty) := by
  induction rows using List.reverseRecOn with
  | nil => exact holds_empty
  | append_singleton rows row ih =>
    rw [List.foldl_append]
    exact ih.push row

end Folder

/-! ## Folding -/

variable (j : Join ρ κ π γ)

/-- The first row and the rows with its key are one aggregate; the other rows are folded apart. -/
theorem fold_cons (row : ρ) (rows : List ρ) :
    fold j (row :: rows)
      = ⟨j.parent row, (j.child row).toList ++
          (rows.filter (j.key · = j.key row)).filterMap j.child⟩
        :: fold j (rows.filter (j.key · ≠ j.key row)) := by
  have grouped (rows : List ρ) := (Folder.holds_foldl_push j rows).finish_eq
  refine List.map_injective_iff.2 (fun _ _ => Option.some.inj) ?_
  rw [fold, grouped, Join.keys_cons, List.map_cons, Join.aggregate?_cons_self, List.map_cons, fold,
    grouped]
  refine congrArg (_ :: ·) (List.map_congr_left fun k listed => ?_)
  obtain ⟨r, mem, rfl⟩ := List.mem_map.1 (List.mem_eraseDups.1 listed)
  exact (Join.aggregate?_filter_of_ne (by simpa using (List.mem_filter.1 mem).2)).symm

/-- Leaving parents out is the same before and after folding, if their keys tell which. -/
theorem filter_fold (kept : π → Bool) (keptKey : κ → Bool) (rows : List ρ)
    (agree : ∀ r ∈ rows, kept (j.parent r) = keptKey (j.key r)) :
    (fold j rows).filter (fun a => kept a.parent)
      = fold j (rows.filter fun r => keptKey (j.key r)) := by
  induction hn : rows.length using Nat.strongRecOn generalizing rows with
  | ind n ih =>
    cases rows with
    | nil => rfl
    | cons row rows =>
      have shorter : (rows.filter (j.key · ≠ j.key row)).length < n :=
        hn ▸ Nat.lt_succ_of_le (List.length_filter_le _ _)
      have others := ih _ shorter (rows.filter (j.key · ≠ j.key row))
        (fun r hr => agree r (List.mem_cons_of_mem row (List.mem_filter.1 hr).1)) rfl
      rw [fold_cons, List.filter_cons, agree row List.mem_cons_self, List.filter_cons, others,
        List.filter_filter]
      by_cases here : keptKey (j.key row) = true
      · -- all rows with the key of the first are kept
        have mine : (rows.filter fun r => keptKey (j.key r)).filter (j.key · = j.key row)
            = rows.filter (j.key · = j.key row) := by
          rw [List.filter_filter]
          refine List.filter_congr fun r _ => ?_
          by_cases same : j.key r = j.key row <;> simp [same, here]
        rw [if_pos here, if_pos here, fold_cons, mine, List.filter_filter]
        simp only [Bool.and_comm]
      · -- and none of them otherwise, so it makes no difference that they are folded apart
        rw [if_neg here, if_neg here]
        refine congrArg (fold j) (List.filter_congr fun r _ => ?_)
        by_cases same : j.key r = j.key row <;> simp [same, here]

/-- Rows that come parent by parent fold into these parents, if their keys differ. -/
theorem fold_flatMap {α : Type} (rows : α → List ρ) (key : α → κ) (parent : α → π) (xs : List α)
    (filled : ∀ x ∈ xs, rows x ≠ [])
    (keys : ∀ x ∈ xs, ∀ r ∈ rows x, j.key r = key x)
    (parents : ∀ x ∈ xs, ∀ r ∈ rows x, j.parent r = parent x)
    (distinct : (xs.map key).Nodup) :
    fold j (xs.flatMap rows) = xs.map fun x => ⟨parent x, (rows x).filterMap j.child⟩ := by
  induction xs with
  | nil => rfl
  | cons x xs ih =>
    obtain ⟨r, rs, hrows⟩ := List.exists_cons_of_ne_nil (filled x List.mem_cons_self)
    have atX := keys x List.mem_cons_self
    have later : ∀ q ∈ xs.flatMap rows, j.key q ≠ key x := by
      intro q hq he
      obtain ⟨y, hy, hq⟩ := List.mem_flatMap.1 hq
      rw [keys y (List.mem_cons_of_mem x hy) q hq] at he
      exact (List.nodup_cons.1 distinct).1 (he ▸ List.mem_map_of_mem hy)
    rw [hrows] at atX
    have first : j.key r = key x := atX r List.mem_cons_self
    have mine : (rs ++ xs.flatMap rows).filter (j.key · = key x) = rs := by
      rw [List.filter_append, List.filter_eq_self.2 fun q hq => by
          simp [atX q (List.mem_cons_of_mem r hq)],
        List.filter_eq_nil_iff.2 fun q hq => by simp [later q hq], List.append_nil]
    have others : (rs ++ xs.flatMap rows).filter (j.key · ≠ key x) = xs.flatMap rows := by
      rw [List.filter_append, List.filter_eq_nil_iff.2 fun q hq => by
          simp [atX q (List.mem_cons_of_mem r hq)],
        List.filter_eq_self.2 fun q hq => by simp [later q hq], List.nil_append]
    have head : j.parent r = parent x :=
      parents x List.mem_cons_self r (hrows ▸ List.mem_cons_self)
    have tail := ih (fun y hy => filled y (List.mem_cons_of_mem x hy))
      (fun y hy => keys y (List.mem_cons_of_mem x hy))
      (fun y hy => parents y (List.mem_cons_of_mem x hy)) (List.nodup_cons.1 distinct).2
    rw [List.flatMap_cons, hrows, List.cons_append, fold_cons, first, mine, others, tail, head,
      List.map_cons, hrows]
    cases h : j.child r <;> simp [h]

end Folder

end HydroArchive
