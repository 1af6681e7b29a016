import HydroArchive.Store.Database.Schema
import HydroArchive.Text.Blank
import HydroArchive.Text.Number

/-!
# Creation of the database

The tables and their indexes are created when a database is opened for the first time.  That fails
when a name is taken: no table and no index may have the name of another one.  Only the indexes over
keys give way, and take the next name that is free.

A name is written in a statement as a whole or with the schema in front of it.  Names in double
quotes keep their case, others are in small letters.

## Main definitions

* `writtenName?` — the name that a statement means.
* `freeName` — the first of a row of names that is free; `freeName_not_mem` says that it is.
* `Database.create` — a new database, with all tables empty.
-/

namespace HydroArchive

/-! ## Written names -/

/-- The parts of a written name, which stand between points.  A double quote begins or ends a part
that is quoted; there, two of them stand for one. -/
def nameParts (quoted : Bool) (part : List Char) : List Char → List (List Char)
  | [] => [part]
  | '"' :: '"' :: cs => nameParts quoted (if quoted then part ++ ['"'] else part) cs
  | '"' :: cs => nameParts (!quoted) part cs
  | c :: cs =>
    if quoted then nameParts true (part ++ [c]) cs
    else if c = '.' then part :: nameParts false [] cs
    else if Text.isBlank c then nameParts false part cs
    else nameParts false (part ++ [c.toLower]) cs

def schemaName : String := "public"

/-- The name that a written name means.  Names in other schemas do not count. -/
def writtenName? (written : String) : Option String :=
  match (nameParts false [] written.toList).map String.ofList with
  | [name] => some name
  | [schema, name] => if schema = schemaName then some name else none
  | _ => none

/-! ## Free names -/

/-- A base with a number behind it. -/
def numbered (base : String) (n : Nat) : String := base ++ String.ofList (Text.decimalChars n)

@[simp] theorem numbered_inj {base : String} {m n : Nat} : numbered base m = numbered base n ↔ m = n := by
  refine ⟨fun h => ?_, fun h => h ▸ rfl⟩
  have digits : Nat.toDigits 10 m = Nat.toDigits 10 n :=
    String.ofList_injective ((String.append_right_inj base).1 h)
  rw [← Nat.ofDigitChars_ten_toDigits (n := m), digits, Nat.ofDigitChars_ten_toDigits]

/-- The first name that is free among the base with `n`, `n + 1`, … behind it.  A taken name does
not come again, so it need not be looked at any more. -/
def numberedName (taken : List String) (base : String) (n : Nat) : String :=
  if h : numbered base n ∈ taken then numberedName (taken.erase (numbered base n)) base (n + 1)
  else numbered base n
termination_by taken.length
decreasing_by
  have := List.length_pos_of_mem h
  rw [List.length_erase_of_mem h]
  omega

theorem exists_numberedName (taken : List String) (base : String) (n : Nat) :
    ∃ m, n ≤ m ∧ numberedName taken base n = numbered base m ∧ numbered base m ∉ taken := by
  fun_induction numberedName taken base n with
  | case1 taken n _ ih =>
    obtain ⟨m, le, eq, free⟩ := ih
    refine ⟨m, by omega, eq, fun h => free ?_⟩
    exact (List.mem_erase_of_ne fun same => by have := numbered_inj.1 same; omega).2 h
  | case2 taken n h => exact ⟨n, Nat.le_refl n, rfl, h⟩

/-- A name that is not taken: the base, or the base with the first number behind it that makes it
free. -/
def freeName (taken : List String) (base : String) : String :=
  if base ∈ taken then numberedName taken base 1 else base

theorem freeName_not_mem (taken : List String) (base : String) : freeName taken base ∉ taken := by
  rw [freeName]
  split
  · obtain ⟨m, _, eq, free⟩ := exists_numberedName taken base 1
    rwa [eq]
  · assumption

/-! ## Creating -/

/-- The name that the index over the key of a table would have. -/
def TableName.keyIndex (t : TableName) : String := t.text ++ "_pkey"

namespace Database

/-- The names of the indexes that are created with the tables and do not give way. -/
def indexNames : List String :=
  ["timeseries_office_id_uq", "timeseries_catalog_order_idx", "locations_office_id_uq",
    "locations_catalog_order_idx", "location_group_assignments_location_idx"]

/-- Whether a table or an index is created with a name. -/
def creates (name : String) : Bool := (TableName.ofText? name).isSome || indexNames.contains name

def migration : String := "2024-05-01-000000_create_cwms_tables"

/-- The failure of creating a table or an index whose name is taken. -/
def nameTaken (name : String) : StoreError :=
  ⟨.internal,
    s!"Migration failed: Failed to run {migration} with: relation \"{name}\" already exists",
    { operation := some "run_migrations" }⟩

/-- A new database where tables with some written names are there already. -/
def create (written : List String) : Except StoreError Database :=
  let taken := written.filterMap writtenName?
  match taken.find? creates with
  | some name => .error (nameTaken name)
  | none => .ok (empty fun t => freeName taken t.keyIndex)

end Database

end HydroArchive
