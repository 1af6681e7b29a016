import HydroArchive.Store.Database.Failure
import HydroArchive.Store.Database.Packing

/-!
# Indexes

A table has indexes over some of its columns.  Each row has a row of its own in each index, and an
index refuses a row that is too long for it.  A unique index also refuses a row with the columns of
another one.

## Main definitions

* `Index` — an index of a table.
* `rowBytes` — the length of a row of an index.
* `Index.check` — what an index says to a new row; `Index.check_eq_ok` says when it takes the row.
-/

namespace HydroArchive

inductive IndexColumn where
  | text (s : String)
  | number (n : Int)
  deriving DecidableEq

/-! ## The length of a row -/

/-- The least multiple of a unit that is not smaller. -/
def roundUp (unit n : Nat) : Nat := (n + unit - 1) / unit * unit

/-- The bytes of a long text in an index: a header of four bytes and the text, or, where that saves
more than two bytes, a header of eight and the packed text. -/
def longTextBytes (s : String) : Nat :=
  let length := s.utf8ByteSize
  if 510 < length + 4 then
    match Packing.packedBytes? s.toUTF8.data with
    | some packed => if packed + 8 + 2 < length then packed + 8 else length + 4
    | none => length + 4
  else length + 4

/-- The length of a row that is `before` bytes long so far when a column is put behind.  A short
text has a header of one byte; a long one starts at a multiple of four. -/
def IndexColumn.behind (before : Nat) : IndexColumn → Nat
  | text s =>
    if s.utf8ByteSize ≤ 126 then before + 1 + s.utf8ByteSize
    else roundUp 4 before + longTextBytes s
  | number _ => roundUp 8 before + 8

/-- The length of a row of an index: a header of eight bytes and the columns, rounded up. -/
def rowBytes (columns : List IndexColumn) : Nat :=
  roundUp 8 (8 + columns.foldl IndexColumn.behind 0)

/-! ## Indexes -/

structure Index (α : Type) where
  name : String
  columns : α → List IndexColumn
  /-- Whether no two rows may have the same columns. -/
  unique : Bool

/-- The failure of adding a row whose columns are in a unique index already. -/
def duplicateKey (index : String) : StoreError :=
  (DatabaseFailure.refused .uniqueViolation
    s!"duplicate key value violates unique constraint \"{index}\"").report

/-- The most bytes that a row of an index can have. -/
def maxRowBytes : Nat := 8191

/-- The most bytes that a row of an index may have, so that three fit on a page. -/
def maxThirdOfPage : Nat := 2704

/-- The failure of adding a row that has no room in an index. -/
def rowTooLong (index : String) (bytes : Nat) : StoreError :=
  (DatabaseFailure.refused .unknown <|
    if maxRowBytes < bytes then
      s!"index row requires {bytes} bytes, maximum size is {maxRowBytes}"
    else
      s!"index row size {bytes} exceeds btree version 4 maximum {maxThirdOfPage} " ++
        s!"for index \"{index}\"").report

namespace Index

variable {α : Type}

/-- Whether two rows have the same columns in the index. -/
def agree (i : Index α) (a b : α) : Bool := decide (i.columns a = i.columns b)

/-- Puts a row into the index of some rows.  A row that cannot be written at all is refused before
the index is searched for its columns, one that only takes too much of a page after that. -/
def check (i : Index α) (rows : List α) (row : α) : Except StoreError Unit :=
  let bytes := rowBytes (i.columns row)
  if maxRowBytes < bytes then .error (rowTooLong i.name bytes)
  else if i.unique && rows.any (i.agree row) then .error (duplicateKey i.name)
  else if maxThirdOfPage < bytes then .error (rowTooLong i.name bytes)
  else .ok ()

/-- An index takes a row that is short enough and, where it is unique, differs from all others. -/
theorem check_eq_ok {i : Index α} {rows : List α} {row : α} :
    i.check rows row = .ok () ↔
      rowBytes (i.columns row) ≤ maxThirdOfPage ∧
        (i.unique = true → ∀ r ∈ rows, i.columns row ≠ i.columns r) := by
  have h : maxThirdOfPage ≤ maxRowBytes := by decide
  simp only [check]
  split
  · simp only [reduceCtorEq, false_iff]
    omega
  · split
    · rename_i k
      simp only [reduceCtorEq, false_iff]
      simp only [Bool.and_eq_true, List.any_eq_true, agree, decide_eq_true_eq] at k
      obtain ⟨u, r, hr, e⟩ := k
      exact fun ⟨_, all⟩ => all u r hr e
    · rename_i k
      simp only [Bool.and_eq_true, List.any_eq_true, agree, decide_eq_true_eq, not_and,
        not_exists] at k
      split
      · simp only [reduceCtorEq, false_iff]
        omega
      · exact ⟨fun _ => ⟨by omega, fun u r hr => k u r hr⟩, fun _ => rfl⟩

end Index

end HydroArchive
