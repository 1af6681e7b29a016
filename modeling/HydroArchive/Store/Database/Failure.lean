import HydroArchive.Store.Error

/-!
# Failures of the database

The database names the fault of a statement that it refuses, in words of its own.  All of its
failures are reported as failures of the store.

## Main definitions

* `DatabaseFailure` — what can go wrong.
* `DatabaseFailure.report` — the failure of the store that it makes.
-/

namespace HydroArchive

/-- The faults for which the database refuses a statement. -/
inductive StatementFault where
  | uniqueViolation
  | foreignKeyViolation
  | unableToSendCommand
  | serializationFailure
  | readOnlyTransaction
  | restrictViolation
  | notNullViolation
  | checkViolation
  | exclusionViolation
  | closedConnection
  | unknown
  deriving DecidableEq, Repr

namespace StatementFault

/-- The name of a fault in the details of a report. -/
def name : StatementFault → String
  | uniqueViolation => "UniqueViolation"
  | foreignKeyViolation => "ForeignKeyViolation"
  | unableToSendCommand => "UnableToSendCommand"
  | serializationFailure => "SerializationFailure"
  | readOnlyTransaction => "ReadOnlyTransaction"
  | restrictViolation => "RestrictViolation"
  | notNullViolation => "NotNullViolation"
  | checkViolation => "CheckViolation"
  | exclusionViolation => "ExclusionViolation"
  | closedConnection => "ClosedConnection"
  | unknown => "Unknown"

def all : List StatementFault :=
  [uniqueViolation, foreignKeyViolation, unableToSendCommand, serializationFailure,
    readOnlyTransaction, restrictViolation, notNullViolation, checkViolation, exclusionViolation,
    closedConnection, unknown]

end StatementFault

/-- What can go wrong between the store and the database. -/
inductive DatabaseFailure where
  /-- No connection came free in time. -/
  | noConnection (message : String)
  | noRow
  | refused (fault : StatementFault) (message : String)
  | malformedQuery (message : String)
  | unreadableRow (message : String)
  | unwritableValue (message : String)
  | rolledBack
  | alreadyInTransaction
  | notInTransaction
  | brokenTransaction
  deriving DecidableEq, Repr

def occursIn (part : List Char) : List Char → Bool
  | [] => part.isEmpty
  | c :: cs => part.isPrefixOf (c :: cs) || occursIn part cs

/-- The database reports a statement that took too long as cancelled, and says why. -/
def saysTimeout (message : String) : Bool := occursIn "statement timeout".toList message.toList

namespace DatabaseFailure

def report : DatabaseFailure → StoreError
  | noConnection message =>
    ⟨.connection, "timed out waiting for connection: " ++ message, { details := some "pool_error" }⟩
  | noRow => ⟨.notFound, "Record not found", {}⟩
  | refused fault message =>
    ⟨if saysTimeout message then .timeout else .query, message,
      { details := some ("db_error_kind=" ++ fault.name) }⟩
  | malformedQuery message => ⟨.query, "Query builder error: " ++ message, {}⟩
  | unreadableRow message => ⟨.internal, "Deserialization error: " ++ message, {}⟩
  | unwritableValue message => ⟨.internal, "Serialization error: " ++ message, {}⟩
  | rolledBack => ⟨.query, "You have asked diesel to rollback the transaction", {}⟩
  | alreadyInTransaction =>
    ⟨.query, "Cannot perform this operation while a transaction is open", {}⟩
  | notInTransaction =>
    ⟨.query, "Cannot perform this operation outside of a transaction", {}⟩
  | brokenTransaction => ⟨.query, "The transaction manager is broken", {}⟩

end DatabaseFailure

end HydroArchive
