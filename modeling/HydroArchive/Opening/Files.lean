import HydroArchive.Opening.Place
import HydroArchive.Opening.Settings

/-!
# Settings in files

The settings are read from a file that is named, or from the first one that is there of three
places.

## Main definitions

* `Settings.ofFile`, `Settings.ofStandardPlace` — the settings in a file.
-/

namespace HydroArchive.Settings

def ofFile (files : Files) (path : String) : Except StoreError Settings := do
  let text ← (files.read path).mapError fun e =>
    .configuration ("Failed to read config file: " ++ e.message)
  ofToml text

/-- The places where settings are looked for, the first one first. -/
def standardPlaces : List String :=
  ["repository.toml", "backend/repository.toml", "../repository.toml"]

/-- The settings in the first standard place where there are any. -/
def ofStandardPlace (files : Files) : Except StoreError Settings :=
  match standardPlaces.find? files.exists? with
  | some path => ofFile files path
  | none => .error (.configuration "No repository.toml found in standard locations")

end HydroArchive.Settings
