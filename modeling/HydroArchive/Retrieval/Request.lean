import HydroArchive.Page.Cursor
import HydroArchive.Retrieval.Error
import HydroArchive.Units

/-!
# Requests for pages

What a caller asks for when a listing is handed out page by page.  The first page is asked for
without a cursor, and each later one with the cursor that came with the page before.
-/

namespace HydroArchive

/-- A request for a page of readings of one series. -/
structure ReadingsRequest where
  /-- The identifier of the series. -/
  name : String
  office : Option String
  /-- A unit system, or a unit. -/
  units : Option String
  beginText : Option String
  endText : Option String
  zoneName : Option String
  cursor : Option String
  /-- Zero or less asks for the series without readings. -/
  pageSize : Int32
  deriving DecidableEq

/-- A request for a page of a catalog. -/
structure CatalogRequest where
  office : Option String
  cursor : Option String
  /-- Zero or less asks for all entries on one page. -/
  pageSize : Int32
  unitSystem : UnitSystem
  deriving DecidableEq

/-- The token of a cursor; a blank cursor is none. -/
def requestedToken (cursor : Option String) (kind : PageKind) :
    Except RetrievalError (Option PageToken) :=
  match Text.nonBlank? cursor with
  | none => .ok none
  | some cursor => ((PageToken.decode cursor kind).map some).mapError .malformedCursor

end HydroArchive
