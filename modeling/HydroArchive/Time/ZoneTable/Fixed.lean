import HydroArchive.Time.ZoneHistory

/-!
# Zone table: the zones whose clocks never change

Each zone with the offset of its first clock and all changes of its clock up to the year 2099.
-/

namespace HydroArchive.ZoneTable

def fixed : List (String × ZoneHistory) :=
  [("Etc/GMT", ⟨0, []⟩),
   ("Etc/GMT+1", ⟨-3600, []⟩),
   ("Etc/GMT+10", ⟨-36000, []⟩),
   ("Etc/GMT+11", ⟨-39600, []⟩),
   ("Etc/GMT+12", ⟨-43200, []⟩),
   ("Etc/GMT+2", ⟨-7200, []⟩),
   ("Etc/GMT+3", ⟨-10800, []⟩),
   ("Etc/GMT+4", ⟨-14400, []⟩),
   ("Etc/GMT+5", ⟨-18000, []⟩),
   ("Etc/GMT+6", ⟨-21600, []⟩),
   ("Etc/GMT+7", ⟨-25200, []⟩),
   ("Etc/GMT+8", ⟨-28800, []⟩),
   ("Etc/GMT+9", ⟨-32400, []⟩),
   ("Etc/GMT-1", ⟨3600, []⟩),
   ("Etc/GMT-10", ⟨36000, []⟩),
   ("Etc/GMT-11", ⟨39600, []⟩),
   ("Etc/GMT-12", ⟨43200, []⟩),
   ("Etc/GMT-13", ⟨46800, []⟩),
   ("Etc/GMT-14", ⟨50400, []⟩),
   ("Etc/GMT-2", ⟨7200, []⟩),
   ("Etc/GMT-3", ⟨10800, []⟩),
   ("Etc/GMT-4", ⟨14400, []⟩),
   ("Etc/GMT-5", ⟨18000, []⟩),
   ("Etc/GMT-6", ⟨21600, []⟩),
   ("Etc/GMT-7", ⟨25200, []⟩),
   ("Etc/GMT-8", ⟨28800, []⟩),
   ("Etc/GMT-9", ⟨32400, []⟩),
   ("Etc/UTC", ⟨0, []⟩)]

end HydroArchive.ZoneTable
