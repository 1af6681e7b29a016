import HydroArchive.Opening.Files
import HydroArchive.Opening.Installation
import HydroArchive.Proofs.Page.Fallback
import HydroArchive.Proofs.Retrieval.Health
import HydroArchive.Proofs.Page.Grouping
import HydroArchive.Proofs.Retrieval.LocationLookup
import HydroArchive.Proofs.Retrieval.LocationWalk
import HydroArchive.Proofs.Retrieval.ReadingsWalk
import HydroArchive.Proofs.Retrieval.SeriesWalk
import HydroArchive.Proofs.Store.Readings
import HydroArchive.Proofs.Time.Localize
import HydroArchive.Proofs.Time.Shown
import HydroArchive.Proofs.Time.Window
import HydroArchive.Proofs.Time.Zulu
import HydroArchive.Retrieval.Catalog
import HydroArchive.Retrieval.Reference
import HydroArchive.Store.Database.Creation
import HydroArchive.Proofs.Retrieval.Origin
import HydroArchive.Proofs.Retrieval.CatalogPage
import HydroArchive.Proofs.Retrieval.ReadingsPage
import HydroArchive.Proofs.Retrieval.GroupContents
import HydroArchive.Proofs.Retrieval.Scope
import HydroArchive.Proofs.Retrieval.BarePage
import HydroArchive.Proofs.Retrieval.Parameters
import HydroArchive.Proofs.Page.Parts
import HydroArchive.Proofs.Page.Admission
import HydroArchive.Proofs.Opening.Agreement
