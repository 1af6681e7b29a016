import HydroArchive.Time.ZoneTable.Africa
import HydroArchive.Time.ZoneTable.Alias
import HydroArchive.Time.ZoneTable.AmericaFirst
import HydroArchive.Time.ZoneTable.AmericaSecond
import HydroArchive.Time.ZoneTable.Asia
import HydroArchive.Time.ZoneTable.Europe
import HydroArchive.Time.ZoneTable.Fixed
import HydroArchive.Time.ZoneTable.Oceans
import HydroArchive.Time.ZoneTable.Pacific

/-!
# The zone table

All named zones, by region.  A zone may be known under several names; each name is a zone of its own
that keeps the clock of the zone it stands for.
-/

namespace HydroArchive.ZoneTable

def clocks : List (String × ZoneHistory) :=
  fixed ++ africa ++ americaFirst ++ americaSecond ++ asia ++ europe ++ oceans ++ pacific

/-- The history of the clock of a zone name. -/
def history? (name : String) : Option ZoneHistory :=
  match aliases.lookup name with
  | some target => clocks.lookup target
  | none => clocks.lookup name

end HydroArchive.ZoneTable
