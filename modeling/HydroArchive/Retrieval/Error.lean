import HydroArchive.Page.Token
import HydroArchive.Store.Error
import HydroArchive.Time.Window

/-!
# Failures of retrieval

A request can fail because of what the caller sent, because what it names is not there, or because
the store failed.  The first two are told to the caller; of the third the caller learns only that it
happened.

A window that leads out of the calendar makes the whole request break off, and nobody is told
anything.  It counts among the failures here because it comes of what the caller sent, too.

## Main definitions

* `RetrievalError` — the failures, each with its cause.
* `RetrievalError.origin` — who is to answer for a failure.
* `RetrievalError.publicMessage` — what a caller is told.
-/

namespace HydroArchive

/-- What a lookup is for. -/
inductive Sought where
  | series
  | location
  | office
  | locationCategory
  | locationGroup
  | seriesCategory
  deriving DecidableEq, Repr

def Sought.name : Sought → String
  | .series => "time series"
  | .location => "location"
  | .office => "office"
  | .locationCategory => "location category"
  | .locationGroup => "location group"
  | .seriesCategory => "time series category"

/-- The failures of a request. -/
inductive RetrievalError where
  | malformedCursor (cause : CursorError)
  | invalidTime (cause : TimeFailure)
  | invalidParameter (name value : String)
  | notFound (sought : Sought) (id : String)
  | store (cause : StoreError)
  deriving DecidableEq, Repr

/-- Who is to answer for a failure. -/
inductive Origin where
  /-- The request cannot be understood, whatever the archive holds. -/
  | request
  /-- The request is sound, but what it names is not in the archive. -/
  | absence
  /-- The store failed. -/
  | store
  deriving DecidableEq, Repr

namespace RetrievalError

/-- The whole message of a failure, for the log.  There is none where the request breaks off. -/
def message : RetrievalError → Option String
  | malformedCursor cause => some ("malformed page cursor: " ++ cause.message)
  | invalidTime (.refused cause) => some ("invalid time window: " ++ cause.message)
  | invalidTime .brokenOff => none
  | invalidParameter name value => some s!"invalid value '{value}' for parameter '{name}'"
  | notFound sought id => some s!"{sought.name} '{id}' not found"
  | store cause => some ("backend error: " ++ cause.text)

def origin : RetrievalError → Origin
  | malformedCursor _ | invalidTime _ | invalidParameter .. => .request
  | notFound .. => .absence
  | store _ => .store

/-- What a caller is told of any failure of the store. -/
def storeFailureNotice : String := "internal server error"

/-- What a caller is told. -/
def publicMessage (e : RetrievalError) : Option String :=
  match e.origin with
  | .store => some storeFailureNotice
  | .request | .absence => e.message

end RetrievalError

end HydroArchive
