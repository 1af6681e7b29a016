import Std.Data.HashMap

/-!
# Folding joined rows

A listing of parents with their children comes from a store as joined rows: one row for each child,
with the parent repeated, and one row without a child for a parent that has none.  Folding puts the
rows of one parent together again.  Parents are known by a key; they come in the order in which
their keys first appear, and so do the children of each.

Rows of different parents may be mixed, so the place of each parent among those that have come is
looked up in a table.

## Main definitions

* `Join` — how a row is taken apart.
* `Folder`, `Folder.push` — the aggregates of the rows so far, and one more row.
* `fold`, `foldStream` — the aggregates of all rows, and of rows that may fail to arrive.
-/

namespace HydroArchive

/-- How a joined row is taken apart: the key of its parent, the parent, and the child if the row has
one. -/
structure Join (ρ κ π γ : Type) where
  key : ρ → κ
  parent : ρ → π
  child : ρ → Option γ

/-- A parent and its children. -/
structure Aggregate (π γ : Type) where
  parent : π
  children : List γ
  deriving DecidableEq, Repr

namespace Aggregate

variable {π γ : Type}

/-- With the child of one more row, if it has one. -/
def add (a : Aggregate π γ) (child : Option γ) : Aggregate π γ :=
  ⟨a.parent, a.children ++ child.toList⟩

end Aggregate

/-- The aggregates of the rows so far, and the place of each among them by the key of its parent. -/
structure Folder (κ π γ : Type) [DecidableEq κ] [Hashable κ] where
  places : Std.HashMap κ Nat
  aggregates : Array (Aggregate π γ)

namespace Folder

variable {ρ κ π γ : Type} [DecidableEq κ] [Hashable κ]

def empty : Folder κ π γ := ⟨∅, #[]⟩

def size (f : Folder κ π γ) : Nat := f.aggregates.size

/-- The place of a parent, which is put at the end without children if its key is new. -/
def locate (f : Folder κ π γ) (key : κ) (parent : π) : Nat × Folder κ π γ :=
  match f.places[key]? with
  | some place => (place, f)
  | none =>
    (f.size, ⟨f.places.insert key f.size, f.aggregates.push ⟨parent, []⟩⟩)

/-- One more row: its child goes to the parent with its key. -/
def push (j : Join ρ κ π γ) (f : Folder κ π γ) (row : ρ) : Folder κ π γ :=
  let (place, located) := f.locate (j.key row) (j.parent row)
  { located with aggregates := located.aggregates.modify place (·.add (j.child row)) }

/-- The aggregates in the order in which their keys first appeared. -/
def finish (f : Folder κ π γ) : List (Aggregate π γ) := f.aggregates.toList

end Folder

variable {ρ κ π γ : Type} [DecidableEq κ] [Hashable κ]

/-- The aggregates of a list of rows. -/
def fold (j : Join ρ κ π γ) (rows : List ρ) : List (Aggregate π γ) :=
  (rows.foldl (Folder.push j) Folder.empty).finish

/-- The aggregates of rows that arrive one by one, or the first failure among them. -/
def foldStream {ε : Type} (j : Join ρ κ π γ) (rows : List (Except ε ρ)) :
    Except ε (List (Aggregate π γ)) :=
  (rows.foldlM (fun f (row : Except ε ρ) => row.map (Folder.push j f)) Folder.empty).map
    Folder.finish

end HydroArchive
