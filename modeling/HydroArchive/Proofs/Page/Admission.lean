import HydroArchive.Proofs.Page.Key

/-!
# What stands behind a catalog key

A page of a catalog goes on behind the key of the last entry that was handed out.  Catalog keys are
totally ordered, and only a key itself is tied with it, so there is always exactly one place to go
on from: of two different entries one stands behind the other, in whatever case they are written.

## Main definitions

* `CatalogKey.folded` — the pair of texts that orders a catalog before case is looked at.
* `CatalogQuery.GoesOn` — what a later page must admit.

## Main statements

* `CatalogKey.compare_eq_then` — the order, column by column.
* `CatalogKey.compare_lawful` — the laws of the order, and the pages that follow from them.
-/

namespace HydroArchive

namespace CatalogKey

/-! ## The columns -/

/-- The identifier and the office in upper case. -/
def folded (k : CatalogKey) : String × String := (Text.upper k.id, Text.upper k.office)

/-- Pairs are compared by their first components, and by their second ones where these are equal. -/
def compareFolded (a b : CatalogKey) : Ordering :=
  (compare a.folded.1 b.folded.1).then (compare a.folded.2 b.folded.2)

/-- The upper case decides first, then the identifier and the office as they are written. -/
theorem compare_eq_then (a b : CatalogKey) :
    compare a b = (compareFolded a b).then ((compare a.id b.id).then (compare a.office b.office)) := by
  change compare (a.columns Text.upper) (b.columns Text.upper) = _
  have none : compare ([] : List String) [] = .eq := rfl
  simp only [columns, List.compare_cons_cons, none, Ordering.then_eq, compareFolded, folded,
    Ordering.then_assoc]

@[simp] theorem compareFolded_eq_eq_iff {a b : CatalogKey} :
    compareFolded a b = .eq ↔ a.folded = b.folded := by
  rw [compareFolded, Ordering.then_eq_eq, Std.LawfulEqOrd.compare_eq_iff_eq,
    Std.LawfulEqOrd.compare_eq_iff_eq, Prod.ext_iff]

/-- Keys that differ in more than case are ordered by their upper case. -/
theorem compare_of_folded_ne {a b : CatalogKey} (differ : a.folded ≠ b.folded) :
    compare a b = compareFolded a b := by
  have decided : compareFolded a b ≠ .eq := mt compareFolded_eq_eq_iff.1 differ
  rw [compare_eq_then]
  cases order : compareFolded a b with
  | lt => rfl
  | gt => rfl
  | eq => exact absurd order decided

theorem isLE_total (a b : CatalogKey) : (compare a b).isLE ∨ (compare b a).isLE := by
  have swap : compare b a = (compare a b).swap := Std.OrientedOrd.eq_swap
  rw [swap]
  cases compare a b <;> decide

/-- Of two different keys, one stands in front. -/
theorem compare_lt_or_gt {a b : CatalogKey} (differ : a ≠ b) :
    compare a b = .lt ∨ compare b a = .lt := by
  cases order : compare a b with
  | lt => exact .inl rfl
  | gt => exact .inr (Std.OrientedCmp.gt_iff_lt.1 order)
  | eq => exact absurd (Std.LawfulEqOrd.eq_of_compare order) differ

end CatalogKey

/-! ## Later pages -/

namespace CatalogQuery

/-- A later page goes on behind a key: it admits entries of the offices that are asked for, with
each of them all that do not stand in front of it, and the key itself no more. -/
structure GoesOn (q : CatalogQuery) (k : CatalogKey) : Prop where
  inside : ∀ a, q.admits a → q.matchesOffice a.office
  upward : ∀ a b, q.admits a → q.matchesOffice b.office → (compare a b).isLE → q.admits b
  handedOut : q.admits k = false

variable {q : CatalogQuery} {k : CatalogKey}

theorem admits_iff (later : q.after = .after k) {a : CatalogKey} :
    q.admits a ↔ q.matchesOffice a.office ∧ compare k a = .lt := by
  rw [admits, later, Bool.and_eq_true]
  exact and_congr_right fun _ => beq_iff_eq

theorem goesOn_of_after (later : q.after = .after k) : q.GoesOn k where
  inside a h := ((admits_iff later).1 h).1
  upward a b h office le :=
    (admits_iff later).2 ⟨office, Std.TransCmp.lt_of_lt_of_isLE ((admits_iff later).1 h).2 le⟩
  handedOut := by
    rw [← Bool.not_eq_true, admits_iff later, Std.ReflOrd.compare_self]
    rintro ⟨-, before⟩
    cases before

/-- Two keys never stand behind each other. -/
theorem not_admits_both {q r : CatalogQuery} {a b : CatalogKey} (qa : q.after = .after a)
    (rb : r.after = .after b) : ¬ (q.admits b ∧ r.admits a) := by
  rintro ⟨behindA, behindB⟩
  have round := Std.TransCmp.lt_trans ((admits_iff qa).1 behindA).2 ((admits_iff rb).1 behindB).2
  rw [Std.ReflOrd.compare_self] at round
  cases round

/-- Of two different keys that are asked for, one stands behind the other. -/
theorem admits_or_admits {q r : CatalogQuery} {a b : CatalogKey} (qa : q.after = .after a)
    (rb : r.after = .after b) (differ : a ≠ b) (hb : q.matchesOffice b.office)
    (ha : r.matchesOffice a.office) : q.admits b ∨ r.admits a := by
  rcases CatalogKey.compare_lt_or_gt differ with before | behind
  · exact .inl ((admits_iff qa).2 ⟨hb, before⟩)
  · exact .inr ((admits_iff rb).2 ⟨ha, behind⟩)

end CatalogQuery

namespace CatalogKey

/-- The order of catalog keys is total and transitive, only equal keys are tied, and keys that
differ in more than case are ordered by their upper case, the identifier before the office.  So a
page behind a key goes on where the page before it ended, and of two different keys that are asked
for exactly one is admitted behind the other. -/
theorem compare_lawful :
    (∀ a b c : CatalogKey,
      compare b a = (compare a b).swap ∧
      ((compare a b).isLE ∨ (compare b a).isLE) ∧
      ((compare a b).isLE → (compare b a).isLE → a = b) ∧
      ((compare a b).isLE → (compare b c).isLE → (compare a c).isLE) ∧
      (compare a b = .eq ↔ a = b) ∧
      (a.folded ≠ b.folded → compare a b = compareFolded a b)) ∧
    (∀ (q : CatalogQuery) (k : CatalogKey), q.after = .after k → q.GoesOn k) ∧
    (∀ (q r : CatalogQuery) (a b : CatalogKey), q.after = .after a → r.after = .after b →
      ¬ (q.admits b ∧ r.admits a) ∧
      (a ≠ b → q.matchesOffice b.office → r.matchesOffice a.office → q.admits b ∨ r.admits a)) := by
  refine ⟨fun a b c => ?_, fun q k later => q.goesOn_of_after later, fun q r a b qa rb => ?_⟩
  · refine ⟨Std.OrientedOrd.eq_swap, isLE_total a b, fun h k => ?_, Std.TransOrd.isLE_trans,
      Std.LawfulEqOrd.compare_eq_iff_eq, compare_of_folded_ne⟩
    exact Std.LawfulEqOrd.eq_of_compare (Std.OrientedCmp.isLE_antisymm h k)
  · exact ⟨CatalogQuery.not_admits_both qa rb, CatalogQuery.admits_or_admits qa rb⟩

/-- Behind `SWT/ABC.Flow` a page for the office `swt` admits the namesakes in lower case, and behind
each of these no longer `SWT/ABC.Flow`. -/
theorem compare_lawful_sample :
    let abc : CatalogKey := ⟨"SWT", "ABC.Flow"⟩
    let office : CatalogKey := ⟨"swt", "ABC.Flow"⟩
    let id : CatalogKey := ⟨"SWT", "abc.Flow"⟩
    let q : CatalogQuery := ⟨some "swt", .after abc, none⟩
    let r : CatalogQuery := ⟨none, .after office, none⟩
    (compare abc id).isLE = true ∧ compare abc ⟨"LRL", "beta"⟩ = .lt ∧
      q.admits office = true ∧ q.admits id = true ∧ q.admits abc = false ∧ ¬ r.admits abc = true := by
  intro abc office id q r
  obtain ⟨laws, later, pairs⟩ := compare_lawful
  have first : (compare abc office).isLE = true := by decide
  have second : (compare office id).isLE = true := by decide
  have folded : abc.folded ≠ (⟨"LRL", "beta"⟩ : CatalogKey).folded := by decide
  have goesOn := later q abc rfl
  have admitted : q.admits office = true := by decide
  refine ⟨(laws abc office id).2.2.2.1 first second, ?_, admitted,
    goesOn.upward office id admitted (by decide) second, goesOn.handedOut, fun again => ?_⟩
  · rw [(laws abc ⟨"LRL", "beta"⟩ abc).2.2.2.2.2 folded]
    decide
  · exact (pairs q r abc office rfl rfl).1 ⟨admitted, again⟩

end CatalogKey

end HydroArchive
