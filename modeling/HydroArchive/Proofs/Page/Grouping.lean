import HydroArchive.Proofs.Page.Fold

/-!
# Folding is grouping by key

The aggregates of rows are those of the keys among them, each key once and in the order in which the
keys first occur, and no child is lost or handed out twice.  Rows that may fail to arrive are folded
like rows that are there, up to the first failure.

## Main statements

* `children_fold_perm` — every child is handed out once.
* `foldStream_map_ok`, `foldStream_of_failure` — rows that all arrive, and the first one that does
  not.
* `fold_eq_grouping` — folding comes to grouping by key, also for rows that may fail to arrive.
-/

namespace HydroArchive

variable {ρ κ π γ ε : Type} [DecidableEq κ] [Hashable κ] {j : Join ρ κ π γ}

theorem children_fold_perm (j : Join ρ κ π γ) (rows : List ρ) :
    ((fold j rows).flatMap Aggregate.children).Perm (rows.filterMap j.child) := by
  induction hn : rows.length using Nat.strongRecOn generalizing rows with
  | ind n ih =>
    cases rows with
    | nil => exact .refl _
    | cons row rows =>
      have shorter : (rows.filter (j.key · ≠ j.key row)).length < n :=
        hn ▸ Nat.lt_succ_of_le (List.length_filter_le _ _)
      have apart : (rows.filter (j.key · = j.key row) ++ rows.filter (j.key · ≠ j.key row)).Perm
          rows := by
        simpa using List.filter_append_perm (fun r => decide (j.key r = j.key row)) rows
      have others := ih _ shorter (rows.filter (j.key · ≠ j.key row)) rfl
      have joined : (row :: rows).filterMap j.child
          = (j.child row).toList ++ rows.filterMap j.child := by
        cases child : j.child row <;> simp [child]
      rw [fold_cons, List.flatMap_cons, joined, List.append_assoc]
      refine .append_left _ (.trans (.append_left _ others) ?_)
      rw [← List.filterMap_append]
      exact apart.filterMap _

/-- Rows that all arrive are pushed one by one. -/
theorem foldStream_map_ok (j : Join ρ κ π γ) (arrived : List ρ) :
    foldStream j (arrived.map (.ok : ρ → Except ε ρ)) = .ok (fold j arrived) := by
  have pushed (f : Folder κ π γ) :
      (arrived.map (.ok : ρ → Except ε ρ)).foldlM (fun f row => row.map (Folder.push j f)) f
        = .ok (arrived.foldl (Folder.push j) f) := by
    induction arrived generalizing f with
    | nil => rfl
    | cons row arrived ih => exact ih (f.push j row)
  rw [foldStream, pushed]
  rfl

/-- The first failure is the answer, whatever arrived before it and would come behind it. -/
theorem foldStream_of_failure (j : Join ρ κ π γ) (arrived : List ρ) (e : ε)
    (behind : List (Except ε ρ)) :
    foldStream j (arrived.map .ok ++ .error e :: behind) = .error e := by
  have failed (f : Folder κ π γ) : (arrived.map Except.ok ++ Except.error e :: behind).foldlM
      (fun f (row : Except ε ρ) => row.map (Folder.push j f)) f = .error e := by
    induction arrived generalizing f with
    | nil => rfl
    | cons row arrived ih => exact ih (f.push j row)
  rw [foldStream, failed]
  rfl

/-- Either all rows arrive, or one is the first that fails to. -/
theorem arrived_or_failed (stream : List (Except ε ρ)) :
    (∃ arrived : List ρ, stream = arrived.map .ok) ∨
      ∃ (arrived : List ρ) (e : ε) (behind : _), stream = arrived.map .ok ++ .error e :: behind := by
  induction stream with
  | nil => exact Or.inl ⟨[], rfl⟩
  | cons first stream ih =>
    cases first with
    | error e => exact Or.inr ⟨[], e, stream, rfl⟩
    | ok row =>
      rcases ih with ⟨arrived, rfl⟩ | ⟨arrived, e, behind, rfl⟩
      · exact Or.inl ⟨row :: arrived, rfl⟩
      · exact Or.inr ⟨row :: arrived, e, behind, rfl⟩

/-- Folding gives the aggregates of the keys in the order in which these first occur, and loses and
repeats no child.  After each row, the folder has as many parents as there were keys so far.  When
rows may fail to arrive, the first failure is the answer, and if there is none, the answer is that
for the rows. -/
theorem fold_eq_grouping (j : Join ρ κ π γ) (rows : List ρ) :
    (fold j rows).map some = (j.keys rows).map (j.aggregate? rows) ∧
      ((fold j rows).flatMap Aggregate.children).Perm (rows.filterMap j.child) ∧
      (∀ n, ((rows.take n).foldl (Folder.push j) .empty).size = (j.keys (rows.take n)).length) ∧
      ∀ stream : List (Except ε ρ),
        (∃ arrived : List ρ, stream = arrived.map .ok ∧
          foldStream j stream = .ok (fold j arrived)) ∨
        ∃ (arrived : List ρ) (e : ε) (behind : _), stream = arrived.map .ok ++ .error e :: behind ∧
          foldStream j stream = .error e := by
  refine ⟨(Folder.holds_foldl_push j rows).finish_eq, children_fold_perm j rows,
    fun n => (Folder.holds_foldl_push j _).size_eq, fun stream => ?_⟩
  rcases arrived_or_failed stream with ⟨arrived, rfl⟩ | ⟨arrived, e, behind, rfl⟩
  · exact Or.inl ⟨arrived, rfl, foldStream_map_ok j arrived⟩
  · exact Or.inr ⟨arrived, e, behind, rfl, foldStream_of_failure j arrived e behind⟩

end HydroArchive
