import HydroArchive.Proofs.Retrieval.LocationWalk
import HydroArchive.Proofs.Retrieval.ReadingsPage
import HydroArchive.Proofs.Text.Ascii

/-!
# Looking up a single location

A page of the location catalog and the lookup of one location are answered in different ways: the
page by sorting and cutting all locations and folding their joined rows, the lookup by the first
location that has the name.  If no two locations differ in case only, both show a location in the
same way, whatever the page was asked for with and in whatever case the location is named.

## Main definitions

* `MemoryStore.LocationsApart` — that names tell locations apart.
* `MemoryStore.OfficesTrimmed` — that offices are looked up as they are written.

## Main statements

* `exists_location_of_mem` — an entry of a page shows a location.
* `retrieveLocation_of_named` — the lookup of a location.
* `retrieveLocation_eq_entry` — the lookup answers with the entry.
-/

namespace HydroArchive

theorem isPrefix_splitPage {α : Type} (rows : List α) (pageSize : Int32) :
    (splitPage rows pageSize).1 <+: rows := by
  rw [splitPage]
  split
  · exact List.take_prefix _ _
  · exact List.prefix_rfl

namespace MemoryStore

/-- No two locations have the same office and identifier up to the case of letters. -/
def LocationsApart (m : MemoryStore) : Prop :=
  m.locations.Pairwise fun a b => ¬ a.isNamed b.office b.id = true

/-- The offices of the locations are not blank and have no blanks around them. -/
def OfficesTrimmed (m : MemoryStore) : Prop :=
  ∀ l ∈ m.locations, Text.trim l.office = l.office ∧ l.office ≠ ""

variable {m : MemoryStore} {l : Location} {office id : String} {units : UnitSystem}

/-! ## Names -/

theorem isNamed_iff :
    l.isNamed office id = true ↔
      Text.asciiFold l.office = Text.asciiFold office ∧ Text.asciiFold l.id = Text.asciiFold id := by
  rw [Location.isNamed, Bool.and_eq_true, Text.sameFold_iff, Text.sameFold_iff]

theorem LocationsApart.nodup_keys (apart : m.LocationsApart) :
    (m.locations.map Location.key).Nodup := by
  refine List.pairwise_map.2 (apart.imp fun {a b} differ same => differ ?_)
  obtain ⟨office, id⟩ := CatalogKey.mk.inj same
  rw [isNamed_iff, office, id]
  exact ⟨rfl, rfl⟩

/-- A name that is that of a location is the name of no other. -/
theorem LocationsApart.filter_eq (apart : m.LocationsApart) (there : l ∈ m.locations)
    (named : l.isNamed office id = true) :
    m.locations.filter (fun k => k.isNamed office id) = [l] := by
  obtain ⟨front, behind, split⟩ := List.append_of_mem there
  rw [LocationsApart, split] at apart
  obtain ⟨-, rest, before⟩ := List.pairwise_append.1 apart
  have after := (List.pairwise_cons.1 rest).1
  obtain ⟨sameOffice, sameId⟩ := isNamed_iff.1 named
  have front_eq : front.filter (fun k => k.isNamed office id) = [] := by
    refine List.filter_eq_nil_iff.2 fun k mem again => before k mem l List.mem_cons_self ?_
    obtain ⟨office', id'⟩ := isNamed_iff.1 again
    exact isNamed_iff.2 ⟨office'.trans sameOffice.symm, id'.trans sameId.symm⟩
  have behind_eq : behind.filter (fun k => k.isNamed office id) = [] := by
    refine List.filter_eq_nil_iff.2 fun k mem again => after k mem ?_
    obtain ⟨office', id'⟩ := isNamed_iff.1 again
    exact isNamed_iff.2 ⟨sameOffice.trans office'.symm, sameId.trans id'.symm⟩
  rw [split, List.filter_append, front_eq, List.filter_cons, if_pos named, behind_eq]
  rfl

/-! ## The page -/

/-- An entry of a page shows one of the locations, with its aliases. -/
theorem exists_location_of_mem (apart : m.LocationsApart) {request : CatalogRequest}
    {page : CatalogPage LocationEntry} {e : LocationEntry}
    (answer : retrieveLocationCatalog m.queries request = .ok page) (mem : e ∈ page.entries) :
    m.healthy = true ∧
      ∃ l ∈ m.locations, e = locationEntry request.unitSystem (m.withAliases l) := by
  obtain ⟨plan, -, answer⟩ := bind_eq_ok.1 answer
  obtain ⟨total, -, answer⟩ := bind_eq_ok.1 answer
  obtain ⟨all, asked, answer⟩ := bind_eq_ok.1 answer
  cases answer
  obtain ⟨rows, stored, rfl⟩ := map_eq_ok.1 (mapError_eq_ok.1 asked)
  obtain ⟨healthy, rows_eq⟩ := whenHealthy_eq_ok.1 stored
  have admitted : (m.locationsAdmitted plan.query).Sublist
      (CatalogKey.sortRows Text.upper Location.key (m.locationsOf plan.query.office)) := by
    rw [locationsAdmitted_eq]
    exact (takeLimit_sublist _ _).trans List.filter_sublist
  have distinct : ((m.locationsAdmitted plan.query).map Location.key).Nodup :=
    (((CatalogKey.sortRows_perm _ _).map _).nodup_iff.2
      (apart.nodup_keys.sublist (List.filter_sublist.map _))).sublist (admitted.map _)
  rw [← Except.ok.inj rows_eq, m.fold_rows distinct] at mem
  obtain ⟨a, kept, rfl⟩ := List.mem_map.1 mem
  obtain ⟨l, shown, rfl⟩ := List.mem_map.1 ((isPrefix_splitPage _ _).subset kept)
  have there := (CatalogKey.sortRows_perm _ _).mem_iff.1 (admitted.subset shown)
  exact ⟨healthy, l, (List.mem_filter.1 there).1, rfl⟩

/-! ## The lookup -/

/-- A location is found under its name in any case, and is shown with its aliases. -/
theorem retrieveLocation_of_named (healthy : m.healthy = true) (apart : m.LocationsApart)
    (trimmed : m.OfficesTrimmed) (there : l ∈ m.locations) (named : l.isNamed office id = true)
    (units : UnitSystem) :
    retrieveLocation m.queries (some office) id units
      = .ok (locationEntry units (m.withAliases l)) := by
  have asked : Text.nonBlank? (some office) = some office := by
    obtain ⟨trim, filled⟩ := trimmed l there
    exact Text.nonBlank?_of_sameFold (Text.sameFold_iff.2 (isNamed_iff.1 named).1.symm) trim filled
  have found : m.locationsNamed (some office) id = [l] := by
    have byName : (m.locations.filter fun k => officePasses (some office) k.office
        && Text.sameFold k.id id) = [l] := by
      rw [← apart.filter_eq there named]
      refine List.filter_congr fun k _ => ?_
      rw [officePasses, Location.isNamed, Text.sameFold_comm]
    rw [locationsNamed, byName]
    exact List.perm_singleton.1 (CatalogKey.sortRows_perm Location.key [l])
  have rows : m.queries.location (some office) id = .ok (m.rowsOf l) := by
    simp only [queries, whenHealthy_of_healthy healthy, found, List.head?_cons]
  have folded : fold LocationRow.join (m.rowsOf l) = [m.withAliases l] := by
    have distinct : ([l].map Location.key).Nodup := List.nodup_singleton _
    simpa using m.fold_rows distinct
  rw [retrieveLocation, asked, rows]
  refine bind_eq_ok.2 ⟨m.rowsOf l, rfl, ?_⟩
  rw [folded]
  rfl

/-- Looking up the location of an entry on any page of the catalog, in any case of its name, gives
that entry. -/
theorem retrieveLocation_eq_entry (apart : m.LocationsApart) (trimmed : m.OfficesTrimmed)
    {request : CatalogRequest} {page : CatalogPage LocationEntry} {e : LocationEntry}
    (answer : retrieveLocationCatalog m.queries request = .ok page) (mem : e ∈ page.entries)
    (named : e.location.isNamed office id = true) :
    retrieveLocation m.queries (some office) id request.unitSystem = .ok e := by
  obtain ⟨healthy, l, there, rfl⟩ := exists_location_of_mem apart answer mem
  exact retrieveLocation_of_named healthy apart trimmed there named _

/-- A location with two aliases, named in another case than it is stored. -/
theorem retrieveLocation_eq_entry_sample : ∃ page e,
    retrieveLocationCatalog sampleMap.queries ⟨some "swt", none, 0, .en⟩ = .ok page ∧
      e ∈ page.entries ∧ e.location.isNamed "Swt" "keys" = true ∧ e.aliases.length = 2 ∧
      retrieveLocation sampleMap.queries (some "Swt") "keys" .en = .ok e := by
  have apart : sampleMap.LocationsApart := by rw [LocationsApart]; decide
  have trimmed : sampleMap.OfficesTrimmed := by rw [OfficesTrimmed]; decide
  have listable : sampleMap.LocationListable := ⟨by decide, by decide⟩
  obtain ⟨page, answer, -, entries, -⟩ := retrieveCatalog_whole
    (serves_locations rfl listable) (locationEntry .en) ⟨some "swt", none, 0, .en⟩
    (by decide) rfl
  have mem : locationEntry .en (sampleMap.withAliases (sampleLocation "KEYS")) ∈ page.entries := by
    rw [entries]
    exact List.mem_map_of_mem (mem_locationListing.2
      ⟨_, List.mem_filter.2 ⟨List.mem_cons_self, by decide⟩, rfl⟩)
  have named : (sampleLocation "KEYS").isNamed "Swt" "keys" = true := by decide
  have aliases : (sampleMap.withAliases (sampleLocation "KEYS")).children.length = 2 :=
    ((Text.sortByColumns_perm _ _).filterMap _).length_eq.trans (by decide)
  exact ⟨page, _, answer, mem, named, aliases,
    retrieveLocation_eq_entry apart trimmed answer mem named⟩

end MemoryStore

end HydroArchive
