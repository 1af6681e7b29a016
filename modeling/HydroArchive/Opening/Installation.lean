import HydroArchive.Opening.Kind
import HydroArchive.Store.Database.Answers
import HydroArchive.Store.Memory

/-!
# Opening an archive

An installation either supports databases or keeps every archive in memory; then asking for a
database is an error.  An archive is opened directly, or by a plan that is put together first and
carried out later.

## Main definitions

* `Store` — an open archive, with its answers.
* `Installation.openAs`, `Installation.openFromEnvironment`, `Installation.openFromSettings` —
  opening directly.
* `Plan`, `Plan.carryOut` — opening by a plan.
-/

namespace HydroArchive

inductive Store where
  | memory (contents : MemoryStore)
  | database (contents : Database)

def Store.queries : Store → Queries
  | .memory contents => contents.queries
  | .database contents => contents.queries

def Store.emptyMemory : Store := .memory {}

/-- What a program was installed with: a way to reach databases, or none. -/
structure Installation where
  connect? : Option (DatabaseSettings → Except StoreError Database)

/-- The failure of asking for a database where none is supported. -/
def databaseUnsupported : StoreError := .configuration "Postgres repository feature not enabled"

/-- The failure of opening a database without saying how to reach it. -/
def databaseSettingsMissing : StoreError :=
  .configuration "Postgres repository requires PostgresConfig"

namespace Installation

variable (i : Installation)

/-- The way to reach databases. -/
def connector : Except StoreError (DatabaseSettings → Except StoreError Database) :=
  match i.connect? with
  | some connect => .ok connect
  | none => .error databaseUnsupported

/-- Opens an archive of a kind; a database needs settings. -/
def openAs (kind : StoreKind) (settings : Option DatabaseSettings) : Except StoreError Store := do
  match kind with
  | .memory => return .emptyMemory
  | .database =>
    let connect ← i.connector
    match settings with
    | none => throw databaseSettingsMissing
    | some settings => return .database (← connect settings)

/-- How the environment says to reach the database. -/
def environmentSettings (env : Environment) : Except StoreError DatabaseSettings := do
  let _ ← i.connector
  (DatabaseSettings.ofEnvironment env).mapError .configuration

def openFromEnvironment (env : Environment) : Except StoreError Store := do
  match StoreKind.ofEnvironment env with
  | .memory => return .emptyMemory
  | .database => i.openAs .database (some (← i.environmentSettings env))

/-- How the settings say to reach the database, when they ask for one. -/
def databaseOf (s : Settings) : Except StoreError (Option DatabaseSettings) := do
  match ← s.kind with
  | .memory => return none
  | .database =>
    let _ ← i.connector
    return some (← s.requiredDatabase)

def openFromSettings (s : Settings) : Except StoreError Store := do
  match ← s.kind with
  | .memory => return .emptyMemory
  | .database => i.openAs .database (← i.databaseOf s)

end Installation

/-- A plan for opening an archive. -/
structure Plan where
  kind : StoreKind
  database : Option DatabaseSettings := none

namespace Plan

/-- The plan to start with: the kind that the environment asks for. -/
def start (env : Environment) : Plan := ⟨StoreKind.ofEnvironment env, none⟩

def withKind (p : Plan) (kind : StoreKind) : Plan := { p with kind := kind }

def withEnvironment (i : Installation) (env : Environment) (p : Plan) : Except StoreError Plan := do
  match StoreKind.ofEnvironment env with
  | .memory => return p.withKind .memory
  | .database => return ⟨.database, some (← i.environmentSettings env)⟩

def withSettings (i : Installation) (s : Settings) (p : Plan) : Except StoreError Plan := do
  match ← s.kind with
  | .memory => return p.withKind .memory
  | .database => return ⟨.database, ← i.databaseOf s⟩

def carryOut (i : Installation) (p : Plan) : Except StoreError Store := i.openAs p.kind p.database

end Plan

/-! ## The shared archive -/

/-- The archive that a process shares: nothing until it is opened for the first time. -/
abbrev SharedStore := Option Store

namespace SharedStore

/-- The archive that an installation shares: the database of the environment where databases are
supported, else one in memory, whatever the environment says. -/
def choose (i : Installation) (env : Environment) : Except StoreError Store :=
  match i.connect? with
  | none => .ok .emptyMemory
  | some _ => do i.openAs .database (some (← i.environmentSettings env))

/-- Opens the shared archive unless it is open. -/
def initialise (i : Installation) (env : Environment) (s : SharedStore) :
    Except String SharedStore :=
  match s with
  | some store => .ok (some store)
  | none => ((choose i env).map some).mapError StoreError.text

/-- What is said when the shared archive cannot be opened on its first use. -/
def notInitialised : String := "Database not initialized. Call init_repository() first."

/-- The shared archive, which is opened if it is not. -/
def get (i : Installation) (env : Environment) (s : SharedStore) : Except String Store :=
  match s.initialise i env with
  | .ok (some store) => .ok store
  | _ => .error notInitialised

end SharedStore

end HydroArchive
