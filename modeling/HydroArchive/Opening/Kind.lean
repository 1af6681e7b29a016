import HydroArchive.Opening.Settings
import HydroArchive.Text.Ascii

/-!
# Kinds of stores

An archive is kept in a database or in memory.  The environment and the settings name the kind.

## Main definitions

* `StoreKind.parse` — the kind with a name.
* `Environment`, `StoreKind.ofEnvironment` — what the environment asks for.
* `DatabaseSettings.ofEnvironment` — how the environment says to reach the database.
* `Settings.kind` — what the settings ask for.
-/

namespace HydroArchive

open Text (maxNatural32 maxNatural64)

/-- Where an archive is kept. -/
inductive StoreKind where
  | database
  | memory
  deriving DecidableEq, Repr

namespace StoreKind

/-- The kind with a name, in any case and with blanks around it.  No letter beyond ASCII has one of
these letters as its lower case, so folding `A` to `Z` is enough. -/
def parse (text : String) : Except String StoreKind :=
  match Text.asciiLower (Text.trim text) with
  | "postgres" | "pg" => .ok .database
  | "local" => .ok .memory
  | _ => .error s!"Unknown repository type: {text}"

end StoreKind

abbrev Environment := String → Option String

def Environment.databaseUrl? (env : Environment) : Option String :=
  (env "DATABASE_URL").or (env "PG_DATABASE_URL")

/-- The kind that the environment asks for: the one it names, where an unknown name stands for
memory; or else the database, if it has an address. -/
def StoreKind.ofEnvironment (env : Environment) : StoreKind :=
  match env "REPOSITORY_TYPE" with
  | some text => (StoreKind.parse text).toOption.getD .memory
  | none => if env.databaseUrl?.isSome then .database else .memory

/-- A number in the environment; anything else counts as absent. -/
def Environment.natural? (env : Environment) (name : String) (max : Nat) : Option Nat :=
  (env name).bind (Text.natural? max)

/-- A limit of zero is none. -/
def positive? (limit : Option Nat) : Option Nat := limit.filter fun n => 0 < n

def missingUrl : String := "DATABASE_URL or PG_DATABASE_URL must be set"

def DatabaseSettings.ofEnvironment (env : Environment) : Except String DatabaseSettings :=
  let d : DatabaseSettings := {}
  match env.databaseUrl? with
  | none => .error missingUrl
  | some url => .ok {
      url := url
      maxConnections := (env.natural? "PG_POOL_MAX" maxNatural32).getD d.maxConnections
      minConnections := (env.natural? "PG_POOL_MIN" maxNatural32).getD d.minConnections
      connectTimeout := (env.natural? "PG_CONN_TIMEOUT_SEC" maxNatural64).getD d.connectTimeout
      idleTimeout := (env.natural? "PG_IDLE_TIMEOUT_SEC" maxNatural64).getD d.idleTimeout
      statementTimeout := positive? (env.natural? "PG_STATEMENT_TIMEOUT_MS" maxNatural64) }

def Settings.kind (s : Settings) : Except StoreError StoreKind :=
  (StoreKind.parse s.storeKind).mapError fun e => .configuration ("Invalid repository type: " ++ e)

/-- How the settings say to reach the database. -/
def Settings.requiredDatabase (s : Settings) : Except StoreError DatabaseSettings :=
  if s.database.url = "" then
    .error (.configuration "Postgres repository requires 'postgres.database_url' setting")
  else .ok { s.database with statementTimeout := positive? s.database.statementTimeout }

end HydroArchive
