/-!
# Failures of a store

A store reports what went wrong, and where: the operation, the kind of entity, its identifier and
further details, as far as they are known.  Callers of the archive never see this text; it is for
the log.

## Main definitions

* `StoreError` — kind, message and context of a failure.
* `StoreError.text` — the whole report in one line.
-/

namespace HydroArchive

/-- Where a failure happened. -/
structure ErrorContext where
  operation : Option String := none
  entity : Option String := none
  id : Option String := none
  details : Option String := none
  deriving DecidableEq, Repr

/-- The known parts of a context, in brackets. -/
def ErrorContext.text (c : ErrorContext) : String :=
  let parts := [("operation", c.operation), ("entity", c.entity), ("id", c.id),
    ("details", c.details)].filterMap fun p => p.2.map fun value => s!"{p.1}={value}"
  "[" ++ ", ".intercalate parts ++ "]"

inductive StoreErrorKind where
  | connection
  | query
  | notFound
  | validation
  | configuration
  | internal
  | timeout
  deriving DecidableEq, Repr

/-- How a report of a kind begins. -/
def StoreErrorKind.title : StoreErrorKind → String
  | .connection => "Connection error"
  | .query => "Query error"
  | .notFound => "Not found"
  | .validation => "Data validation error"
  | .configuration => "Configuration error"
  | .internal => "Internal error"
  | .timeout => "Timeout error"

structure StoreError where
  kind : StoreErrorKind
  message : String
  context : ErrorContext
  deriving DecidableEq, Repr

namespace StoreError

def text (e : StoreError) : String := s!"{e.kind.title}: {e.message} {e.context.text}"

/-- A failure of the configuration, which has no context. -/
def configuration (message : String) : StoreError := ⟨.configuration, message, {}⟩

def withOperation (e : StoreError) (operation : String) : StoreError :=
  { e with context := { e.context with operation := some operation } }

def withEntity (e : StoreError) (entity : String) : StoreError :=
  { e with context := { e.context with entity := some entity } }

end StoreError

end HydroArchive
