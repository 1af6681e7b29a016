import HydroArchive.Page.Token
import HydroArchive.Text.Split
import HydroArchive.Text.Upper

/-!
# Catalog keys

An entry of a catalog is known by its office and its identifier, and the catalog is ordered by both:
by the upper case of the identifier, then of the office, then by the identifier and the office as
they are written.  The last two columns keep entries apart that differ in case only.

A store may have an upper-case mapping of its own, which is handed to the columns.

## Main definitions

* `CatalogKey` — office and identifier, with their order.
* `CatalogKey.resumeKey`, `CatalogKey.ofResumeKey` — the key as a page token carries it.
-/

namespace HydroArchive

/-- What a catalog entry is known by. -/
structure CatalogKey where
  office : String
  id : String
  deriving DecidableEq, Hashable, Repr

namespace CatalogKey

/-- The columns that order a catalog, the most significant first. -/
def columns (upper : String → String) (k : CatalogKey) : List String :=
  [upper k.id, upper k.office, k.id, k.office]

/-- Keys are compared by their columns. -/
instance : Ord CatalogKey := ⟨fun a b => compare (a.columns Text.upper) (b.columns Text.upper)⟩

/-- Whether a key stands strictly after another in a catalog. -/
def isAfter (a b : CatalogKey) : Bool := compare b a == .lt

/-- The office, a slash and the identifier. -/
def resumeKey (k : CatalogKey) : String :=
  String.ofList (k.office.toList ++ '/' :: k.id.toList)

/-- Takes a resume key apart at its first slash; neither part may be empty. -/
def ofResumeKey (key : String) : Except CursorError CatalogKey :=
  match Text.splitAtFirst '/' key.toList with
  | some (c :: office, d :: id) => .ok ⟨String.ofList (c :: office), String.ofList (d :: id)⟩
  | _ => .error (.invalidResumeKey key)

/-- The rows of a catalog in the order of their keys; rows with the same key keep their order. -/
def sortRows {α : Type} (upper : String → String) (key : α → CatalogKey) (rows : List α) :
    List α :=
  Text.sortByColumns (fun row => (key row).columns upper) rows

end CatalogKey

end HydroArchive
