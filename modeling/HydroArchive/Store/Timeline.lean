import HydroArchive.Time.Instant

/-!
# Timelines

The stored values of a series, one for each instant, in ascending order of the instants.  Storing a
value at an instant that has one already replaces it.

## Main definitions

* `Timeline` — the entries, with the proof that their instants ascend.
* `Timeline.insert` — stores a value; `mem_insertEntry` says what the entries are afterwards.
-/

namespace HydroArchive

namespace Instant

theorem lt_iff {a b : Instant} :
    a < b ↔ a.second < b.second ∨ (a.second = b.second ∧ a.nano < b.nano) := Iff.rfl

theorem le_iff {a b : Instant} :
    a ≤ b ↔ a.second < b.second ∨ (a.second = b.second ∧ a.nano ≤ b.nano) := Iff.rfl

theorem lt_irrefl (a : Instant) : ¬ a < a := by rw [lt_iff]; omega

theorem lt_trans {a b c : Instant} (h : a < b) (k : b < c) : a < c := by
  rw [lt_iff] at *; omega

theorem le_refl (a : Instant) : a ≤ a := by rw [le_iff]; omega

theorem le_of_lt {a b : Instant} (h : a < b) : a ≤ b := by
  rw [lt_iff] at h; rw [le_iff]; omega

theorem le_trans {a b c : Instant} (h : a ≤ b) (k : b ≤ c) : a ≤ c := by
  rw [le_iff] at *; omega

theorem ext_of_not_lt {a b : Instant} (h : ¬ a < b) (k : ¬ b < a) : a = b := by
  cases a; cases b
  simp only [lt_iff, mk.injEq] at *
  omega

end Instant

namespace Timeline

variable {α : Type}

/-- Puts a value among entries, in place of one at the same instant. -/
def insertEntry (t : Instant) (v : α) : List (Instant × α) → List (Instant × α)
  | [] => [(t, v)]
  | e :: es =>
    if t < e.1 then (t, v) :: e :: es
    else if e.1 < t then e :: insertEntry t v es
    else (t, v) :: es

/-- The instants of the entries, each before all that follow. -/
def Ascending (es : List (Instant × α)) : Prop := es.Pairwise fun a b => a.1 < b.1

/-- In an ascending list, the entries after storing a value are that value and the entries at other
instants. -/
theorem mem_insertEntry {t : Instant} {v : α} {es : List (Instant × α)} (h : Ascending es)
    {e : Instant × α} : e ∈ insertEntry t v es ↔ e = (t, v) ∨ (e ∈ es ∧ e.1 ≠ t) := by
  induction es with
  | nil => simp [insertEntry]
  | cons x xs ih =>
    have hx := List.pairwise_cons.1 h
    rw [insertEntry]
    split
    case isTrue htx =>
      have other : ∀ y ∈ x :: xs, y.1 ≠ t := by
        intro y hy he
        rcases List.mem_cons.1 hy with rfl | hy
        · exact Instant.lt_irrefl t (he ▸ htx)
        · exact Instant.lt_irrefl t (Instant.lt_trans htx (he ▸ hx.1 y hy))
      grind
    case isFalse htx =>
      split
      case isTrue hxt =>
        have : x.1 ≠ t := fun he => Instant.lt_irrefl t (he ▸ hxt)
        have := ih hx.2
        grind
      case isFalse hxt =>
        have same : x.1 = t := Instant.ext_of_not_lt hxt htx
        have other : ∀ y ∈ xs, y.1 ≠ t := fun y hy he => by
          have before := hx.1 y hy
          rw [same, he] at before
          exact Instant.lt_irrefl t before
        grind

theorem ascending_insertEntry {t : Instant} {v : α} {es : List (Instant × α)} (h : Ascending es) :
    Ascending (insertEntry t v es) := by
  induction es with
  | nil => simp [insertEntry, Ascending]
  | cons x xs ih =>
    have hx := List.pairwise_cons.1 h
    rw [insertEntry]
    split
    case isTrue htx =>
      refine List.pairwise_cons.2 ⟨fun y hy => ?_, h⟩
      rcases List.mem_cons.1 hy with rfl | hy
      · exact htx
      · exact Instant.lt_trans htx (hx.1 y hy)
    case isFalse htx =>
      split
      case isTrue hxt =>
        refine List.pairwise_cons.2 ⟨fun y hy => ?_, ih hx.2⟩
        rcases (mem_insertEntry hx.2).1 hy with rfl | hy
        · exact hxt
        · exact hx.1 y hy.1
      case isFalse hxt =>
        have same : x.1 = t := Instant.ext_of_not_lt hxt htx
        exact List.pairwise_cons.2 ⟨fun y hy => same ▸ hx.1 y hy, hx.2⟩

end Timeline

/-- Values at instants, one for each instant, ascending in time. -/
structure Timeline (α : Type) where
  entries : List (Instant × α)
  ascending : Timeline.Ascending entries

namespace Timeline

variable {α : Type}

def empty : Timeline α := ⟨[], List.Pairwise.nil⟩

def insert (l : Timeline α) (t : Instant) (v : α) : Timeline α :=
  ⟨insertEntry t v l.entries, ascending_insertEntry l.ascending⟩

def between (l : Timeline α) (first last : Instant) : List (Instant × α) :=
  l.entries.filter fun e => decide (first ≤ e.1) && decide (e.1 ≤ last)

end Timeline

end HydroArchive
