import HydroArchive.Opening.Installation

/-!
# The ways to open an archive agree

An archive is opened directly or by a plan, and from the environment or from settings.  A plan that
takes up the environment or settings comes to the same as opening from them directly, whatever it
said before.  An installation without databases does not need to be told how to reach one, so there
even the plan to start with can be carried out: it opens what the environment asks for.

A name that is not known is treated differently on purpose: in the environment it stands for memory,
in settings it is refused.

## Main definitions

* `Queries.Vacant` — the answers of an archive in which nothing is stored.
* `StoreKind.names`, `Environment.AsksForDatabase` — what asks for a kind of store.
* `Installation.memoryOnly` — an installation without databases.

## Main statements

* `Plan.carryOut_withEnvironment`, `Plan.carryOut_withSettings` — plans on any installation.
* `Installation.openings_agree` — all ways to open an archive where there are no databases.
-/

namespace HydroArchive

/-! ## New archives -/

/-- The answers of an archive that is healthy and holds nothing. -/
structure Queries.Vacant (q : Queries) : Prop where
  health : q.health = .ok true
  series : ∀ office id, q.series office id = .ok none
  countReadings : ∀ series first last, q.countReadings series first last = .ok 0
  readings : ∀ series unit query, q.readings series unit query = .ok []
  countSeries : ∀ office, q.countSeries office = .ok 0
  seriesCatalog : ∀ query, q.seriesCatalog query = .ok []
  countLocations : ∀ office, q.countLocations office = .ok 0
  locationCatalog : ∀ query, q.locationCatalog query = .ok []
  location : ∀ office id, q.location office id = .ok []
  offices : q.offices = .ok []
  office : ∀ id, q.office id = .ok none
  locationCategories : ∀ office, q.locationCategories office = .ok []
  locationCategory : ∀ office id, q.locationCategory office id = .ok none
  locationGroups : ∀ office, q.locationGroups office = .ok []
  locationGroup : ∀ office category group, q.locationGroup office category group = .ok []
  seriesCategories : ∀ office, q.seriesCategories office = .ok []
  seriesCategory : ∀ office id, q.seriesCategory office id = .ok none
  seriesGroups : ∀ office category group, q.seriesGroups office category group = .ok []

theorem Store.vacant_emptyMemory : Store.emptyMemory.queries.Vacant := by
  constructor
  -- every answer is made from stored lists, and all of them are empty
  all_goals
    simp [queries, emptyMemory, MemoryStore.queries, MemoryStore.whenHealthy,
      MemoryStore.seriesNamed, MemoryStore.countReadings, MemoryStore.readings,
      MemoryStore.findSeries?, MemoryStore.seriesCatalog, MemoryStore.locationsAdmitted,
      MemoryStore.locationsNamed, MemoryStore.categoriesOf, MemoryStore.categoryNamed?,
      MemoryStore.locationGroupsOf, MemoryStore.groupRows, MemoryStore.findGroup?,
      MemoryStore.seriesGroupsOf, CatalogKey.sortRows]

/-! ## What asks for a kind of store -/

/-- The names of a kind, in small letters. -/
def StoreKind.names : StoreKind → List String
  | database => ["postgres", "pg"]
  | memory => ["local"]

/-- A text names a kind, with blanks around the name and in any case. -/
def StoreKind.IsNamedBy (kind : StoreKind) (text : String) : Prop :=
  Text.asciiLower (Text.trim text) ∈ kind.names

instance (kind : StoreKind) (text : String) : Decidable (kind.IsNamedBy text) :=
  inferInstanceAs (Decidable (_ ∈ _))

theorem StoreKind.parse_eq_ok_iff {text : String} {kind : StoreKind} :
    parse text = .ok kind ↔ kind.IsNamedBy text := by
  rw [parse, IsNamedBy]
  split
  case h_1 name => cases kind <;> simp [name, names]
  case h_2 name => cases kind <;> simp [name, names]
  case h_3 name => cases kind <;> simp [name, names]
  case h_4 postgres pg memory =>
    constructor
    · intro h
      cases h
    · cases kind <;> simp_all [names]

theorem StoreKind.eq_of_parse_eq_error {text e : String} (h : parse text = .error e) :
    e = s!"Unknown repository type: {text}" := by
  rw [parse] at h
  split at h
  case h_4 => exact (Except.error.inj h).symm
  all_goals cases h

/-- The environment asks for a database: it names that kind, or it names no kind but has the address
of a database. -/
inductive Environment.AsksForDatabase (env : Environment) : Prop
  | named {text : String} (given : env "REPOSITORY_TYPE" = some text)
      (name : StoreKind.database.IsNamedBy text) : env.AsksForDatabase
  | addressed {url : String} (unnamed : env "REPOSITORY_TYPE" = none)
      (address : env "DATABASE_URL" = some url ∨ env "PG_DATABASE_URL" = some url) :
      env.AsksForDatabase

theorem Environment.isSome_databaseUrl?_iff {env : Environment} :
    env.databaseUrl?.isSome ↔
      ∃ url, env "DATABASE_URL" = some url ∨ env "PG_DATABASE_URL" = some url := by
  rw [databaseUrl?, Option.isSome_or, Bool.or_eq_true, Option.isSome_iff_exists,
    Option.isSome_iff_exists, exists_or]

namespace StoreKind

variable {env : Environment}

theorem ofEnvironment_of_named {text : String} (given : env "REPOSITORY_TYPE" = some text) :
    ofEnvironment env = .database ↔ database.IsNamedBy text := by
  have kind : ofEnvironment env = (parse text).toOption.getD .memory := by
    simp only [ofEnvironment, given]
  rw [kind, ← parse_eq_ok_iff]
  cases parse text with
  | ok k => simp [Except.toOption]
  | error e => simp [Except.toOption]

theorem ofEnvironment_of_unnamed (unnamed : env "REPOSITORY_TYPE" = none) :
    ofEnvironment env = .database ↔
      ∃ url, env "DATABASE_URL" = some url ∨ env "PG_DATABASE_URL" = some url := by
  have kind : ofEnvironment env = if env.databaseUrl?.isSome then .database else .memory := by
    simp only [ofEnvironment, unnamed]
  rw [kind, ← Environment.isSome_databaseUrl?_iff]
  cases env.databaseUrl?.isSome <;> simp

theorem ofEnvironment_eq_database_iff : ofEnvironment env = .database ↔ env.AsksForDatabase := by
  cases given : env "REPOSITORY_TYPE" with
  | none =>
    rw [ofEnvironment_of_unnamed given]
    constructor
    · rintro ⟨url, address⟩
      exact .addressed given address
    · rintro (⟨named, -⟩ | ⟨-, address⟩)
      · cases given.symm.trans named
      · exact ⟨_, address⟩
  | some text =>
    rw [ofEnvironment_of_named given]
    constructor
    · exact .named given
    · rintro (⟨named, name⟩ | ⟨unnamed, -⟩)
      · cases given.symm.trans named
        exact name
      · cases given.symm.trans unnamed

end StoreKind

/-! ## Plans -/

namespace Plan

variable (i : Installation)

theorem carryOut_withEnvironment (env : Environment) (p : Plan) :
    (p.withEnvironment i env >>= carryOut i) = i.openFromEnvironment env := by
  rw [withEnvironment, Installation.openFromEnvironment]
  cases StoreKind.ofEnvironment env with
  | memory => rfl
  | database => cases i.environmentSettings env <;> rfl

theorem carryOut_withSettings (s : Settings) (p : Plan) :
    (p.withSettings i s >>= carryOut i) = i.openFromSettings s := by
  rw [withSettings, Installation.openFromSettings]
  cases s.kind with
  | error e => rfl
  | ok kind =>
    cases kind with
    | memory => rfl
    | database =>
      simp only [bind, Except.bind]
      cases i.databaseOf s <;> rfl

end Plan

/-! ## Installations without databases -/

namespace Installation

/-- An installation that keeps every archive in memory. -/
def memoryOnly : Installation := ⟨none⟩

/-- Without databases nothing has to be said about how to reach one. -/
theorem openFromEnvironment_memoryOnly (env : Environment) :
    memoryOnly.openFromEnvironment env = memoryOnly.openAs (StoreKind.ofEnvironment env) none := by
  rw [openFromEnvironment]
  cases StoreKind.ofEnvironment env <;> rfl

/-- Whatever is said about a database, the archive is one in memory or there is none. -/
theorem openAs_memoryOnly (kind : StoreKind) (settings : Option DatabaseSettings) :
    memoryOnly.openAs kind settings =
      match kind with
      | .memory => .ok .emptyMemory
      | .database => .error databaseUnsupported := by
  cases kind <;> rfl

theorem openAs_memoryOnly_eq_error_iff {kind : StoreKind} {settings : Option DatabaseSettings} :
    memoryOnly.openAs kind settings = .error databaseUnsupported ↔ kind = .database := by
  rw [openAs_memoryOnly]
  cases kind <;> simp

theorem openAs_memoryOnly_eq_ok_iff {kind : StoreKind} {settings : Option DatabaseSettings} :
    memoryOnly.openAs kind settings = .ok .emptyMemory ↔ kind ≠ .database := by
  rw [openAs_memoryOnly]
  cases kind <;> simp

/-- Settings open an archive, and a new one, if they can be taken for those of one in memory. -/
theorem openFromSettings_memoryOnly_eq_map (s : Settings) :
    memoryOnly.openFromSettings s = (memoryOnly.databaseOf s).map fun _ => .emptyMemory := by
  rw [openFromSettings, databaseOf]
  cases s.kind with
  | error e => rfl
  | ok kind => cases kind <;> rfl

/-- Settings only have to say their kind. -/
theorem openFromSettings_memoryOnly (s : Settings) :
    memoryOnly.openFromSettings s = s.kind.bind fun kind => memoryOnly.openAs kind none := by
  rw [openFromSettings_memoryOnly_eq_map, databaseOf]
  cases s.kind with
  | error e => rfl
  | ok kind => cases kind <;> rfl

end Installation

/-- What settings with a name that is not known are refused for. -/
def unknownKind (name : String) : StoreError :=
  .configuration ("Invalid repository type: " ++ s!"Unknown repository type: {name}")

/-- The kind of settings by the name that they give. -/
theorem Settings.kind_eq_ite (s : Settings) :
    s.kind =
      if StoreKind.memory.IsNamedBy s.storeKind then .ok .memory
      else if StoreKind.database.IsNamedBy s.storeKind then .ok .database
      else .error (unknownKind s.storeKind) := by
  rw [kind]
  cases parsed : StoreKind.parse s.storeKind with
  | ok kind =>
    have name := StoreKind.parse_eq_ok_iff.1 parsed
    cases kind with
    | memory => rw [if_pos name]; rfl
    | database =>
      have other : ¬ StoreKind.memory.IsNamedBy s.storeKind := by
        rw [← StoreKind.parse_eq_ok_iff, parsed]
        nofun
      rw [if_neg other, if_pos name]
      rfl
  | error e =>
    have unnamed (kind : StoreKind) : ¬ kind.IsNamedBy s.storeKind := by
      rw [← StoreKind.parse_eq_ok_iff, parsed]
      nofun
    rw [if_neg (unnamed _), if_neg (unnamed _), StoreKind.eq_of_parse_eq_error parsed]
    rfl

namespace Installation

/-- All ways to open an archive where there are no databases.  From the environment, they fail
exactly if it asks for a database, for one reason, and open a new archive otherwise.  From settings,
whatever the environment says, they fail exactly if the settings cannot be taken for those of an
archive in memory, for the reason that is given there. -/
theorem openings_agree (env : Environment) :
    ((Plan.start env).carryOut memoryOnly = memoryOnly.openFromEnvironment env ∧
      (∀ kind, (((Plan.start env).withKind kind).withEnvironment memoryOnly env >>=
        Plan.carryOut memoryOnly) = memoryOnly.openFromEnvironment env) ∧
      (memoryOnly.openFromEnvironment env = .error databaseUnsupported ↔ env.AsksForDatabase) ∧
      (memoryOnly.openFromEnvironment env = .ok .emptyMemory ↔ ¬ env.AsksForDatabase)) ∧
    (∀ s : Settings,
      ((Plan.start env).withSettings memoryOnly s >>= Plan.carryOut memoryOnly)
        = memoryOnly.openFromSettings s ∧
      ((∃ store, memoryOnly.openFromSettings s = .ok store) ↔
        ∃ d, memoryOnly.databaseOf s = .ok d) ∧
      memoryOnly.openFromSettings s = (memoryOnly.databaseOf s).map (fun _ => .emptyMemory) ∧
      memoryOnly.openFromSettings s =
        if StoreKind.memory.IsNamedBy s.storeKind then .ok .emptyMemory
        else if StoreKind.database.IsNamedBy s.storeKind then .error databaseUnsupported
        else .error (unknownKind s.storeKind)) ∧
    Store.emptyMemory.queries.Vacant := by
  refine ⟨⟨?_, fun kind => ?_, ?_, ?_⟩, fun s => ⟨?_, ?_, ?_, ?_⟩, Store.vacant_emptyMemory⟩
  · exact (openFromEnvironment_memoryOnly env).symm
  · exact Plan.carryOut_withEnvironment memoryOnly env _
  · rw [openFromEnvironment_memoryOnly, openAs_memoryOnly_eq_error_iff,
      StoreKind.ofEnvironment_eq_database_iff]
  · rw [openFromEnvironment_memoryOnly, openAs_memoryOnly_eq_ok_iff, ne_eq,
      StoreKind.ofEnvironment_eq_database_iff]
  · exact Plan.carryOut_withSettings memoryOnly s _
  · rw [openFromSettings_memoryOnly_eq_map]
    cases memoryOnly.databaseOf s <;> simp [Except.map]
  · exact openFromSettings_memoryOnly_eq_map s
  · rw [openFromSettings_memoryOnly, Settings.kind_eq_ite]
    split
    · rfl
    · split <;> rfl

end Installation

end HydroArchive
