import HydroArchive.Retrieval.Parameters
import HydroArchive.Toml.Document

/-!
# Settings

The settings of an archive are a TOML document with the sections `repository`, `postgres` and
`paging`.  Only the type in the first section is required.  A section is a table, or an array with
the fields in their fixed order; fields that it lacks have their default values, and fields that are
not known are ignored.

## Main definitions

* `Settings`, `DatabaseSettings` — the settings.
* `Settings.ofToml` — reads a document.
-/

namespace HydroArchive

/-- How to reach the database. -/
structure DatabaseSettings where
  url : String := ""
  maxConnections : Nat := 10
  minConnections : Nat := 1
  /-- In seconds. -/
  connectTimeout : Nat := 30
  /-- In seconds. -/
  idleTimeout : Nat := 600
  /-- In milliseconds; zero is no limit. -/
  statementTimeout : Option Nat := none
  deriving DecidableEq, Repr

structure Settings where
  /-- What the document says about the kind of store. -/
  storeKind : String
  database : DatabaseSettings
  pageSizes : PageSizes

namespace Settings

open Text (maxNatural32 maxNatural64)
open Toml (Node Fields)

/-- The fields of a section by name.  The items of an array are the fields in their order.  A date
has no fields. -/
def sectionFields? (order : List String) : Node → Option Fields
  | .table _ fields => some fields
  | .array items => some (order.zip items)
  | .entries tables => some (order.zip (tables.map (Node.table .header)))
  | .moment => some []
  | .text _ | .integer _ | .float | .boolean => none

/-- A field, or its default. -/
def readField {α : Type} (fields : Fields) (name : String) (read : Node → Option α) (default : α) :
    Option α :=
  match fields.lookup name with
  | none => some default
  | some node => read node

def text? : Node → Option String
  | .text value => some value
  | _ => none

def natural? (max : Nat) : Node → Option Nat
  | .integer n => if 0 ≤ n ∧ n ≤ max then some n.toNat else none
  | _ => none

def integer32? : Node → Option Int32
  | .integer n =>
    if Text.minInteger32 ≤ n ∧ n ≤ Text.maxInteger32 then some (Int32.ofInt n) else none
  | _ => none

/-- The kind of store in the section `repository`. -/
def storeKind? (node : Node) : Option String := do
  text? (← (← sectionFields? ["type"] node).lookup "type")

def database? (node : Node) : Option DatabaseSettings := do
  let d : DatabaseSettings := {}
  let fields ← sectionFields? ["database_url", "max_connections", "min_connections",
    "connect_timeout", "idle_timeout", "statement_timeout_ms"] node
  return {
    url := ← readField fields "database_url" text? d.url
    maxConnections := ← readField fields "max_connections" (natural? maxNatural32) d.maxConnections
    minConnections := ← readField fields "min_connections" (natural? maxNatural32) d.minConnections
    connectTimeout := ← readField fields "connect_timeout" (natural? maxNatural64) d.connectTimeout
    idleTimeout := ← readField fields "idle_timeout" (natural? maxNatural64) d.idleTimeout
    statementTimeout := ← readField fields "statement_timeout_ms"
      (fun node => (natural? maxNatural64 node).map some) d.statementTimeout }

def pageSizes? (node : Node) : Option PageSizes := do
  let d : PageSizes := {}
  let fields ← sectionFields? ["default_page_size", "catalog_page_size"] node
  return {
    readings := ← readField fields "default_page_size" integer32? d.readings
    catalog := ← readField fields "catalog_page_size" integer32? d.catalog }

def ofDocument? (fields : Fields) : Option Settings := do
  return {
    storeKind := ← storeKind? (← fields.lookup "repository")
    database := ← readField fields "postgres" database? {}
    pageSizes := ← readField fields "paging" pageSizes? {} }

def ofToml (text : String) : Except StoreError Settings :=
  match (Toml.document? text).bind ofDocument? with
  | some settings => .ok settings
  | none => .error (.configuration "Failed to parse config file")

end Settings

end HydroArchive
