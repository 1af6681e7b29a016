import HydroArchive.Retrieval.Request
import HydroArchive.Text.Number
import Std.Data.HashMap
import Std.Data.TreeMap

/-!
# Parameters of requests

Requests arrive as named texts.  Some parameters have older spellings beside their current name; the
current one is looked for first, and a blank value is passed over as if it were not there.

## Main definitions

* `ParameterSource` — where named texts come from: a list of pairs or a map.
* `Parameter.spellings` — the names of a parameter, the current one first.
* `firstParameter?` — the name and the value that are used.
* `readReadingsRequest`, `readCatalogRequest` — the requests that parameters make.
-/

namespace HydroArchive

/-- Something that texts can be looked up in by name. -/
class ParameterSource (σ : Type) where
  text? : σ → String → Option String

/-- In a list of pairs, the first pair with a name counts. -/
instance : ParameterSource (List (String × String)) := ⟨fun pairs name => pairs.lookup name⟩

instance : ParameterSource (Std.HashMap String String) := ⟨fun map name => map[name]?⟩

instance : ParameterSource (Std.TreeMap String String) := ⟨fun map name => map[name]?⟩

/-- The parameters that requests are made of. -/
inductive Parameter where
  | cursor
  | pageSize
  | unitSystem
  | office
  | name
  | unit
  | beginTime
  | endTime
  | timeZone
  deriving DecidableEq, Repr

/-- The names of a parameter, the current one first. -/
def Parameter.spellings : Parameter → List String
  | cursor => ["page", "cursor"]
  | pageSize => ["page-size", "pagesize", "pageSize"]
  | unitSystem => ["unit-system", "unitSystem"]
  | office => ["office"]
  | name => ["name"]
  | unit => ["unit"]
  | beginTime => ["begin"]
  | endTime => ["end"]
  | timeZone => ["timezone"]

/-- The ways in which a parameter can be refused. -/
inductive ParameterError where
  | notInteger (name value : String)
  | notUnitSystem (name value : String)
  | missing (name : String)
  deriving DecidableEq, Repr

namespace ParameterError

def message : ParameterError → String
  | notInteger name value => s!"parameter '{name}' must be an integer, got '{value}'"
  | notUnitSystem name value => s!"parameter '{name}' must be SI or EN, got '{value}'"
  | missing name => s!"missing required parameter '{name}'"

/-- The failure of the request that has the parameter. -/
def asRetrievalError : ParameterError → RetrievalError
  | notInteger name value | notUnitSystem name value => .invalidParameter name value
  | missing name => .invalidParameter name ""

end ParameterError

/-- The sizes of pages for requests that do not say. -/
structure PageSizes where
  readings : Int32 := 500
  catalog : Int32 := 100
  deriving DecidableEq

variable {σ : Type} [ParameterSource σ]

/-- The first spelling with a value that is not blank, and the trimmed value. -/
def firstSpelling? (source : σ) (spellings : List String) : Option (String × String) :=
  spellings.findSome? fun name =>
    (Text.nonBlank? (ParameterSource.text? source name)).map fun value => (name, value)

/-- The name and the value that are used for a parameter. -/
def firstParameter? (source : σ) (p : Parameter) : Option (String × String) :=
  firstSpelling? source p.spellings

def parameter? (source : σ) (p : Parameter) : Option String :=
  (firstParameter? source p).map Prod.snd

/-- The value of a parameter that is an integer of 32 bits. -/
def integerParameter (source : σ) (p : Parameter) (default : Int32) :
    Except ParameterError Int32 :=
  match firstParameter? source p with
  | none => .ok default
  | some (name, value) =>
    match Text.integer32? value with
    | some n => .ok (Int32.ofInt n)
    | none => .error (.notInteger name value)

/-- The unit system that the parameters ask for. -/
def unitSystemParameter (source : σ) (default : UnitSystem) : Except ParameterError UnitSystem :=
  match firstParameter? source .unitSystem with
  | none => .ok default
  | some (name, value) =>
    match UnitSystem.parse? value with
    | some u => .ok u
    | none => .error (.notUnitSystem name value)

/-- The request for readings that parameters make; the name of the series is required. -/
def readReadingsRequest (source : σ) (sizes : PageSizes) :
    Except ParameterError ReadingsRequest := do
  let some name := parameter? source .name | throw (.missing "name")
  let pageSize ← integerParameter source .pageSize sizes.readings
  return {
    name := name
    office := parameter? source .office
    units := parameter? source .unit
    beginText := parameter? source .beginTime
    endText := parameter? source .endTime
    zoneName := parameter? source .timeZone
    cursor := parameter? source .cursor
    pageSize := pageSize }

/-- The request for a catalog that parameters make. -/
def readCatalogRequest (source : σ) (sizes : PageSizes) : Except ParameterError CatalogRequest := do
  let pageSize ← integerParameter source .pageSize sizes.catalog
  let unitSystem ← unitSystemParameter source .si
  return {
    office := parameter? source .office
    cursor := parameter? source .cursor
    pageSize := pageSize
    unitSystem := unitSystem }

end HydroArchive
