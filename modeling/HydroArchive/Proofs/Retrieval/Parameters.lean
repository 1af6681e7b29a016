import HydroArchive.Proofs.Time.Window
import HydroArchive.Retrieval.Parameters

/-!
# Which spelling of a parameter is taken

A parameter is read from the first of its spellings whose text is not blank.  Nothing behind that
spelling matters, and a blank text in front of it is as good as none.  A refusal names the spelling
that was read.

The texts come from a list of pairs or from a map.  Where the names are apart, all of these look up
the same texts, in whatever order the pairs were given.

## Main definitions

* `Takes` — the spelling and the value that are taken for a parameter.
* `AgreeWhereReached` — two sources agree, but for spellings that are outranked.
* `ReadingsRequest.TakenFrom`, `CatalogRequest.TakenFrom` — a request holds what is taken.
* `readingsFaults`, `catalogFaults` — the faults for which a request is refused.
* `HasPairs` — the texts of a source are those of some pairs.
* `SameRequests` — two sources make the same requests, or are refused alike.

## Main statements

* `takes_iff` — `firstParameter?` finds what is taken.
* `Takes.not_reached` — the spellings behind the one that is taken are outranked.
* `firstParameter?_congr` — only the spellings up to the one that is taken matter.
* `HasPairs.text?_eq` — sources of the same pairs look up the same texts.
* `requests_resolved` — what the requests are, and what they do not depend on.
-/

namespace HydroArchive

variable {σ τ : Type} [ParameterSource σ] [ParameterSource τ] {source : σ} {other : τ}
variable {p : Parameter} {name value : String}

/-! ## The spelling that is taken -/

/-- A source has no text of a name, or one of blanks only. -/
def Blank (source : σ) (name : String) : Prop :=
  ∀ text, ParameterSource.text? source name = some text → Text.trim text = ""

/-- All spellings of a parameter in front of one are blank.  The spellings that are not reached are
outranked by one that is not blank. -/
def Reached (source : σ) (p : Parameter) (name : String) : Prop :=
  ∃ before after, p.spellings = before ++ name :: after ∧ ∀ earlier ∈ before, Blank source earlier

/-- The value that is taken for a parameter is the trimmed text of the first of its spellings that
is not blank. -/
structure Takes (source : σ) (p : Parameter) (name value : String) : Prop where
  reached : Reached source p name
  trimmed : ∃ text, ParameterSource.text? source name = some text ∧ Text.trim text = value
  filled : value ≠ ""

theorem blank_iff : Blank source name ↔ Text.nonBlank? (ParameterSource.text? source name) = none :=
  Text.nonBlank?_eq_none_iff.symm

/-- What is taken is what is found. -/
theorem takes_iff : Takes source p name value ↔ firstParameter? source p = some (name, value) := by
  rw [firstParameter?, firstSpelling?, List.findSome?_eq_some_iff]
  constructor
  · rintro ⟨⟨before, after, spelled, blank⟩, ⟨text, given, trimmed⟩, filled⟩
    have found := Text.nonBlank?_eq_some_iff.2 ⟨text, given, trimmed, filled⟩
    refine ⟨before, name, after, spelled, by rw [found]; rfl, fun earlier mem => ?_⟩
    rw [blank_iff.1 (blank earlier mem)]
    rfl
  · rintro ⟨before, _, after, spelled, found, blank⟩
    obtain ⟨_, found, same⟩ := Option.map_eq_some_iff.1 found
    cases same
    obtain ⟨text, given, trimmed, filled⟩ := Text.nonBlank?_eq_some_iff.1 found
    exact ⟨⟨before, after, spelled, fun earlier mem =>
      blank_iff.2 (Option.map_eq_none_iff.1 (blank earlier mem))⟩, ⟨text, given, trimmed⟩, filled⟩

theorem firstParameter?_eq_none_iff :
    firstParameter? source p = none ↔ ∀ name value, ¬ Takes source p name value := by
  simp only [takes_iff, Option.eq_none_iff_forall_ne_some, Prod.forall]

theorem Takes.unique {name' value' : String} (first : Takes source p name value)
    (second : Takes source p name' value') : name = name' ∧ value = value' :=
  Prod.mk.inj (Option.some.inj ((takes_iff.1 first).symm.trans (takes_iff.1 second)))

theorem Takes.trim_eq (taken : Takes source p name value) : Text.trim value = value := by
  obtain ⟨text, -, rfl⟩ := taken.trimmed
  exact Text.trim_trim text

/-! ## Outranked spellings -/

theorem Parameter.nodup_spellings (p : Parameter) : p.spellings.Nodup := by
  cases p <;> decide

theorem Parameter.eq_of_mem_spellings {p q : Parameter} (first : name ∈ p.spellings)
    (second : name ∈ q.spellings) : p = q := by
  have apart (p q : Parameter) : p ≠ q → ∀ name ∈ p.spellings, name ∉ q.spellings := by
    cases p <;> cases q <;> decide
  by_contra differ
  exact apart p q differ name first second

/-- No spelling behind the one that is taken is reached. -/
theorem Takes.not_reached {used : String} {before after : List String}
    (taken : Takes source p used value) (spelled : p.spellings = before ++ used :: after)
    (behind : name ∈ after) : ¬ Reached source p name := by
  rintro ⟨before', after', spelled', blank⟩
  have upToUsed : before ++ [used] <+: p.spellings := ⟨after, by simp [spelled]⟩
  have upToName : before' ++ [name] <+: p.spellings := ⟨after', by simp [spelled']⟩
  have later : name ∉ before ++ [used] := by
    intro mem
    have apart := p.nodup_spellings
    rw [spelled, List.append_cons, List.nodup_append] at apart
    exact apart.2.2 name mem name behind rfl
  -- both are beginnings of one list, and the one that ends in the name is not the shorter one
  rcases List.prefix_or_prefix_of_prefix upToUsed upToName with short | long
  · rcases List.mem_append.1 (short.subset (by simp : used ∈ before ++ [used])) with earlier | last
    · obtain ⟨text, given, trimmed⟩ := taken.trimmed
      exact taken.filled (trimmed.symm.trans (blank used earlier text given))
    · exact later (by simp [List.mem_singleton.1 last])
  · exact later (long.subset (by simp))

/-- Two sources have the same to say, up to blanks, under every spelling that the first one
reaches.  So they may differ in all spellings behind the one that is taken, and in whether a spelling
is blank or not there. -/
def AgreeWhereReached (source : σ) (other : τ) : Prop :=
  ∀ p name, Reached source p name →
    Text.nonBlank? (ParameterSource.text? source name)
      = Text.nonBlank? (ParameterSource.text? other name)

/-- Two sources that differ in nothing but the spellings behind the one that is taken agree. -/
theorem Takes.agreeWhereReached {used : String} {before after : List String}
    (taken : Takes source p used value) (spelled : p.spellings = before ++ used :: after)
    (agree : ∀ q : Parameter, ∀ name ∈ q.spellings, name ∉ after →
      Text.nonBlank? (ParameterSource.text? source name)
        = Text.nonBlank? (ParameterSource.text? other name)) :
    AgreeWhereReached source other := by
  intro q name reached
  have spelling : name ∈ q.spellings := by
    obtain ⟨before', after', spelled', -⟩ := reached
    simp [spelled']
  by_cases behind : name ∈ after
  · have same : p = q := Parameter.eq_of_mem_spellings (by simp [spelled, behind]) spelling
    subst same
    exact absurd reached (taken.not_reached spelled behind)
  · exact agree q name spelling behind

theorem firstSpelling?_congr {spellings : List String}
    (agree : ∀ before name after, spellings = before ++ name :: after →
      (∀ earlier ∈ before, Blank source earlier) →
        Text.nonBlank? (ParameterSource.text? source name)
          = Text.nonBlank? (ParameterSource.text? other name)) :
    firstSpelling? source spellings = firstSpelling? other spellings := by
  induction spellings with
  | nil => rfl
  | cons name rest ih =>
    have same := agree [] name rest rfl (by simp)
    rw [firstSpelling?, firstSpelling?, List.findSome?_cons, List.findSome?_cons, ← same]
    cases found : Text.nonBlank? (ParameterSource.text? source name) with
    | some value => rfl
    | none =>
      refine ih fun before later after spelled blank => ?_
      refine agree (name :: before) later after (by rw [spelled]; rfl) ?_
      exact List.forall_mem_cons.2 ⟨blank_iff.2 found, blank⟩

/-- Only the spellings up to the one that is taken matter. -/
theorem firstParameter?_congr (agree : AgreeWhereReached source other) (p : Parameter) :
    firstParameter? source p = firstParameter? other p :=
  firstSpelling?_congr fun before name after spelled blank =>
    agree p name ⟨before, after, spelled, blank⟩

/-- Two sources make the same requests, or are refused alike. -/
def SameRequests (sizes : PageSizes) (source : σ) (other : τ) : Prop :=
  readReadingsRequest source sizes = readReadingsRequest other sizes ∧
    readCatalogRequest source sizes = readCatalogRequest other sizes

/-- A request depends on the values that are taken and on nothing else. -/
theorem sameRequests_of_firstParameter? (sizes : PageSizes)
    (same : ∀ p, firstParameter? source p = firstParameter? other p) :
    SameRequests sizes source other := by
  simp only [SameRequests, readReadingsRequest, readCatalogRequest, parameter?, integerParameter,
    unitSystemParameter, same, and_self]

/-! ## Sources of the same pairs -/

/-- The texts of a source are those of some pairs. -/
structure HasPairs (source : σ) (pairs : List (String × String)) : Prop where
  given : ∀ name value, (name, value) ∈ pairs → ParameterSource.text? source name = some value
  absent : ∀ name, name ∉ pairs.map Prod.fst → ParameterSource.text? source name = none

namespace HasPairs

variable {pairs order : List (String × String)}

/-- Sources of the same pairs look up the same texts. -/
theorem text?_eq (first : HasPairs source pairs) (second : HasPairs other pairs) (name : String) :
    ParameterSource.text? source name = ParameterSource.text? other name := by
  by_cases there : name ∈ pairs.map Prod.fst
  · obtain ⟨⟨_, value⟩, mem, rfl⟩ := List.mem_map.1 there
    rw [first.given _ value mem, second.given _ value mem]
  · rw [first.absent name there, second.absent name there]

theorem perm (other : HasPairs source order) (same : order.Perm pairs) :
    HasPairs source pairs where
  given name value mem := other.given name value (same.mem_iff.2 mem)
  absent name out := other.absent name fun mem => out ((same.map Prod.fst).mem_iff.1 mem)

theorem sameRequests (sizes : PageSizes) (first : HasPairs source pairs)
    (second : HasPairs other pairs) : SameRequests sizes source other := by
  refine sameRequests_of_firstParameter? sizes fun p => firstParameter?_congr ?_ p
  intro p name _
  rw [first.text?_eq second]

/-- A list of pairs with names apart looks each pair up. -/
theorem list (apart : (pairs.map Prod.fst).Nodup) : HasPairs pairs pairs where
  given name value mem := by
    obtain ⟨before, after, rfl⟩ := List.append_of_mem mem
    refine List.lookup_eq_some_iff.2 ⟨before, after, rfl, fun pair earlier => ?_⟩
    rw [List.map_append, List.nodup_append] at apart
    have other : pair.1 ≠ name :=
      apart.2.2 _ (List.mem_map_of_mem earlier) _ List.mem_cons_self
    exact bne_iff_ne.2 other.symm
  absent name out := by
    refine List.lookup_eq_none_iff.2 fun pair mem => bne_iff_ne.2 ?_
    rintro rfl
    exact out (List.mem_map_of_mem mem)

theorem hashMap (apart : (pairs.map Prod.fst).Nodup) :
    HasPairs (Std.HashMap.ofList pairs) pairs where
  given name value mem := by
    have unequal : pairs.Pairwise fun a b => (a.1 == b.1) = false :=
      (List.pairwise_map.1 apart).imp fun ne => beq_eq_false_iff_ne.2 ne
    exact Std.HashMap.getElem?_ofList_of_mem (beq_self_eq_true name) unequal mem
  absent name out :=
    Std.HashMap.getElem?_ofList_of_contains_eq_false (by simpa using out)

theorem treeMap (apart : (pairs.map Prod.fst).Nodup) :
    HasPairs (Std.TreeMap.ofList pairs) pairs where
  given name value mem := by
    have unequal : pairs.Pairwise fun a b => ¬ compare a.1 b.1 = .eq :=
      (List.pairwise_map.1 apart).imp fun ne eq => ne (Std.LawfulEqCmp.eq_of_compare eq)
    exact Std.TreeMap.getElem?_ofList_of_mem Std.ReflCmp.compare_self unequal mem
  absent name out :=
    Std.TreeMap.getElem?_ofList_of_contains_eq_false (by simpa using out)

end HasPairs

/-! ## Values that are read -/

section Read

variable {α : Type} {read : String → Option α} {refusal : String → String → ParameterError}
variable {default a : α}

/-- A parameter that is read from its value; one that cannot be read is refused under the spelling
that is taken. -/
def readParameter (source : σ) (p : Parameter) (read : String → Option α)
    (refusal : String → String → ParameterError) (default : α) : Except ParameterError α :=
  match firstParameter? source p with
  | none => .ok default
  | some (name, value) =>
    match read value with
    | some a => .ok a
    | none => .error (refusal name value)

/-- A size in decimal. -/
def readSize (value : String) : Option Int32 := (Text.integer32? value).map Int32.ofInt

theorem integerParameter_eq (source : σ) (p : Parameter) (default : Int32) :
    integerParameter source p default = readParameter source p readSize .notInteger default := by
  rw [integerParameter, readParameter]
  cases firstParameter? source p with
  | none => rfl
  | some taken =>
    simp only [readSize]
    cases Text.integer32? taken.2 <;> rfl

theorem unitSystemParameter_eq (source : σ) (default : UnitSystem) :
    unitSystemParameter source default
      = readParameter source .unitSystem UnitSystem.parse? .notUnitSystem default := by
  rw [unitSystemParameter, readParameter]
  cases firstParameter? source .unitSystem with
  | none => rfl
  | some taken =>
    simp only
    cases UnitSystem.parse? taken.2 <;> rfl

/-- A parameter has a value: what is read from the text that is taken, or a default if none is. -/
inductive ReadAs (source : σ) (p : Parameter) (read : String → Option α) (default : α) : α → Prop
  | taken {name value : String} {a : α} (first : Takes source p name value)
      (valid : read value = some a) : ReadAs source p read default a
  | absent (none : ∀ name value, ¬ Takes source p name value) : ReadAs source p read default default

theorem readParameter_eq_ok_iff :
    readParameter source p read refusal default = .ok a ↔ ReadAs source p read default a := by
  rw [readParameter]
  cases found : firstParameter? source p with
  | none =>
    have none := firstParameter?_eq_none_iff.1 found
    constructor
    · rintro ⟨⟩
      exact .absent none
    · rintro (⟨first, -⟩ | -)
      · exact absurd first (none _ _)
      · rfl
  | some taken =>
    have first : Takes source p taken.1 taken.2 := takes_iff.2 found
    constructor
    · intro answer
      cases valid : read taken.2 with
      | none => simp [valid] at answer
      | some b =>
        obtain rfl : b = a := by simpa [valid] using answer
        exact .taken first valid
    · rintro (⟨first', valid⟩ | none)
      · obtain ⟨-, rfl⟩ := first.unique first'
        simp [valid]
      · exact absurd first (none _ _)

/-- A value is taken for a parameter that cannot be read, and the refusal names the spelling that it
was taken from. -/
def Unread (source : σ) (p : Parameter) (read : String → Option α)
    (refusal : String → String → ParameterError) (e : ParameterError) : Prop :=
  ∃ name value, Takes source p name value ∧ read value = none ∧ e = refusal name value

theorem readParameter_eq_error_iff {e : ParameterError} :
    readParameter source p read refusal default = .error e ↔ Unread source p read refusal e := by
  rw [readParameter]
  cases found : firstParameter? source p with
  | none => simp [Unread, firstParameter?_eq_none_iff.1 found]
  | some taken =>
    have first : Takes source p taken.1 taken.2 := takes_iff.2 found
    constructor
    · intro answer
      cases invalid : read taken.2 with
      | none => exact ⟨taken.1, taken.2, first, invalid, by simpa [invalid, eq_comm] using answer⟩
      | some b => simp [invalid] at answer
    · rintro ⟨name, value, first', invalid, rfl⟩
      obtain ⟨rfl, rfl⟩ := first.unique first'
      simp [invalid]

end Read

/-! ## Requests -/

/-- A field of a request holds the value that is taken for a parameter, and nothing if none is. -/
def HoldsTaken (source : σ) (p : Parameter) (field : Option String) : Prop :=
  ∀ value, field = some value ↔ ∃ name, Takes source p name value

theorem holdsTaken_iff {field : Option String} :
    HoldsTaken source p field ↔ field = parameter? source p := by
  have taken (value : String) :
      parameter? source p = some value ↔ ∃ name, Takes source p name value := by
    simp [parameter?, takes_iff]
  simp only [HoldsTaken, ← taken]
  exact Option.ext_iff.symm

/-- A field that holds what is taken is trimmed and not empty. -/
theorem HoldsTaken.trimmed {field : Option String} (holds : HoldsTaken source p field)
    {text : String} (there : field = some text) : text ≠ "" ∧ Text.trim text = text := by
  obtain ⟨name, taken⟩ := (holds text).1 there
  exact ⟨taken.filled, taken.trim_eq⟩

/-- No value is taken for the name of a series. -/
def Unnamed (source : σ) (e : ParameterError) : Prop :=
  (∀ name value, ¬ Takes source .name name value) ∧ e = .missing "name"

/-- The text fields of a request for readings, with the parameters that they are read from. -/
def ReadingsRequest.texts (r : ReadingsRequest) : List (Parameter × Option String) :=
  [(.name, some r.name), (.office, r.office), (.unit, r.units), (.beginTime, r.beginText),
    (.endTime, r.endText), (.timeZone, r.zoneName), (.cursor, r.cursor)]

/-- The text fields of a request for a catalog, with the parameters that they are read from. -/
def CatalogRequest.texts (r : CatalogRequest) : List (Parameter × Option String) :=
  [(.office, r.office), (.cursor, r.cursor)]

/-- A request for readings holds what is taken for its parameters. -/
structure ReadingsRequest.TakenFrom (source : σ) (sizes : PageSizes) (r : ReadingsRequest) :
    Prop where
  texts : ∀ field ∈ r.texts, HoldsTaken source field.1 field.2
  pageSize : ReadAs source .pageSize readSize sizes.readings r.pageSize

/-- A request for a catalog holds what is taken for its parameters. -/
structure CatalogRequest.TakenFrom (source : σ) (sizes : PageSizes) (r : CatalogRequest) :
    Prop where
  texts : ∀ field ∈ r.texts, HoldsTaken source field.1 field.2
  pageSize : ReadAs source .pageSize readSize sizes.catalog r.pageSize
  unitSystem : ReadAs source .unitSystem UnitSystem.parse? .si r.unitSystem

/-- The faults for which a request for readings is refused, in the order in which they are looked
for. -/
def readingsFaults (source : σ) : List (ParameterError → Prop) :=
  [Unnamed source, Unread source .pageSize readSize .notInteger]

/-- The faults for which a request for a catalog is refused, in the order in which they are looked
for. -/
def catalogFaults (source : σ) : List (ParameterError → Prop) :=
  [Unread source .pageSize readSize .notInteger,
    Unread source .unitSystem UnitSystem.parse? .notUnitSystem]

section Requests

variable {sizes : PageSizes} {e : ParameterError}

/-- The name of a series, which has to be there. -/
def requiredName (source : σ) : Except ParameterError String :=
  (parameter? source .name).elim (.error (.missing "name")) .ok

/-- The steps of a request for readings, one behind the other. -/
theorem readReadingsRequest_eq (source : σ) (sizes : PageSizes) :
    readReadingsRequest source sizes =
      requiredName source >>= fun name =>
      readParameter source .pageSize readSize .notInteger sizes.readings >>= fun size =>
      .ok ⟨name, parameter? source .office, parameter? source .unit, parameter? source .beginTime,
        parameter? source .endTime, parameter? source .timeZone, parameter? source .cursor, size⟩ := by
  rw [readReadingsRequest, integerParameter_eq, requiredName]
  cases parameter? source .name <;> rfl

theorem readCatalogRequest_eq (source : σ) (sizes : PageSizes) :
    readCatalogRequest source sizes =
      readParameter source .pageSize readSize .notInteger sizes.catalog >>= fun size =>
      readParameter source .unitSystem UnitSystem.parse? .notUnitSystem .si >>= fun unitSystem =>
      .ok ⟨parameter? source .office, parameter? source .cursor, size, unitSystem⟩ := by
  rw [readCatalogRequest, integerParameter_eq, unitSystemParameter_eq]
  rfl

theorem requiredName_eq_ok : requiredName source = .ok name ↔ some name = parameter? source .name := by
  rw [requiredName]
  cases parameter? source .name <;> simp [eq_comm]

theorem requiredName_eq_error : requiredName source = .error e ↔ Unnamed source e := by
  rw [requiredName, parameter?, Unnamed, ← firstParameter?_eq_none_iff]
  cases firstParameter? source .name <;> simp [eq_comm]

theorem ReadingsRequest.takenFrom_iff {r : ReadingsRequest} :
    r.TakenFrom source sizes ↔ readReadingsRequest source sizes = .ok r := by
  rw [readReadingsRequest_eq]
  constructor
  · rintro ⟨texts, size⟩
    simp only [ReadingsRequest.texts, List.forall_mem_cons, holdsTaken_iff] at texts
    obtain ⟨name, office, units, beginText, endText, zoneName, cursor, -⟩ := texts
    refine bind_eq_ok.2 ⟨r.name, requiredName_eq_ok.2 name, bind_eq_ok.2
      ⟨r.pageSize, readParameter_eq_ok_iff.2 size, ?_⟩⟩
    rw [← office, ← units, ← beginText, ← endText, ← zoneName, ← cursor]
  · intro answer
    obtain ⟨name, named, answer⟩ := bind_eq_ok.1 answer
    obtain ⟨size, sized, answer⟩ := bind_eq_ok.1 answer
    obtain rfl := Except.ok.inj answer
    refine ⟨?_, readParameter_eq_ok_iff.1 sized⟩
    simp [ReadingsRequest.texts, holdsTaken_iff, requiredName_eq_ok.1 named]

theorem CatalogRequest.takenFrom_iff {r : CatalogRequest} :
    r.TakenFrom source sizes ↔ readCatalogRequest source sizes = .ok r := by
  rw [readCatalogRequest_eq]
  constructor
  · rintro ⟨texts, size, unitSystem⟩
    simp only [CatalogRequest.texts, List.forall_mem_cons, holdsTaken_iff] at texts
    obtain ⟨office, cursor, -⟩ := texts
    refine bind_eq_ok.2 ⟨r.pageSize, readParameter_eq_ok_iff.2 size, bind_eq_ok.2
      ⟨r.unitSystem, readParameter_eq_ok_iff.2 unitSystem, ?_⟩⟩
    rw [← office, ← cursor]
  · intro answer
    obtain ⟨size, sized, answer⟩ := bind_eq_ok.1 answer
    obtain ⟨unitSystem, valid, answer⟩ := bind_eq_ok.1 answer
    obtain rfl := Except.ok.inj answer
    refine ⟨?_, readParameter_eq_ok_iff.1 sized, readParameter_eq_ok_iff.1 valid⟩
    simp [CatalogRequest.texts, holdsTaken_iff]

theorem readReadingsRequest_eq_error_iff :
    readReadingsRequest source sizes = .error e ↔ FirstFault (readingsFaults source) e := by
  rw [readReadingsRequest_eq]
  refine bind_eq_error_iff_firstFault (fun e => requiredName_eq_error) (fun name _ => ?_) e
  refine bind_eq_error_iff_firstFault (fun e => readParameter_eq_error_iff) (fun size _ => ?_)
  intro e
  exact ⟨nofun, nofun⟩

theorem readCatalogRequest_eq_error_iff :
    readCatalogRequest source sizes = .error e ↔ FirstFault (catalogFaults source) e := by
  rw [readCatalogRequest_eq]
  refine bind_eq_error_iff_firstFault (fun e => readParameter_eq_error_iff) (fun size _ => ?_) e
  refine bind_eq_error_iff_firstFault (fun e => readParameter_eq_error_iff) (fun unitSystem _ => ?_)
  intro e
  exact ⟨nofun, nofun⟩

end Requests

/-- Each field of a request holds the value that is taken for its parameter, or else its default,
and is trimmed and not empty if it is a text.  A request is refused for the first of its faults; a
value that cannot be read is refused under the spelling that it was taken from.

Neither depends on where the texts come from: pairs with names apart make the same requests in any
order, as a list and as a map.  Nor does it depend on the spellings behind the one that is taken, or
on whether a spelling is blank or not there. -/
theorem requests_resolved (sizes : PageSizes) :
    (∀ {σ : Type} [ParameterSource σ] (source : σ),
      (∀ r, readReadingsRequest source sizes = .ok r ↔ r.TakenFrom source sizes) ∧
      (∀ r, readCatalogRequest source sizes = .ok r ↔ r.TakenFrom source sizes) ∧
      (∀ r, readReadingsRequest source sizes = .ok r → ∀ field ∈ r.texts, ∀ text,
        field.2 = some text → text ≠ "" ∧ Text.trim text = text) ∧
      (∀ r, readCatalogRequest source sizes = .ok r → ∀ field ∈ r.texts, ∀ text,
        field.2 = some text → text ≠ "" ∧ Text.trim text = text) ∧
      (∀ e, readReadingsRequest source sizes = .error e ↔ FirstFault (readingsFaults source) e) ∧
      (∀ e, readCatalogRequest source sizes = .error e ↔ FirstFault (catalogFaults source) e)) ∧
    (∀ pairs order : List (String × String), (pairs.map Prod.fst).Nodup → order.Perm pairs →
      SameRequests sizes pairs order ∧
      SameRequests sizes pairs (Std.HashMap.ofList order) ∧
      SameRequests sizes pairs (Std.TreeMap.ofList order)) ∧
    ∀ {σ τ : Type} [ParameterSource σ] [ParameterSource τ] (source : σ) (other : τ),
      AgreeWhereReached source other → SameRequests sizes source other := by
  refine ⟨fun source => ⟨fun r => ReadingsRequest.takenFrom_iff.symm,
    fun r => CatalogRequest.takenFrom_iff.symm, ?_, ?_, fun e => readReadingsRequest_eq_error_iff,
    fun e => readCatalogRequest_eq_error_iff⟩, ?_, ?_⟩
  · intro r answer field mem text there
    exact ((ReadingsRequest.takenFrom_iff.2 answer).texts field mem).trimmed there
  · intro r answer field mem text there
    exact ((CatalogRequest.takenFrom_iff.2 answer).texts field mem).trimmed there
  · intro pairs order apart same
    have apart' : (order.map Prod.fst).Nodup := (same.map Prod.fst).nodup_iff.2 apart
    have first : HasPairs pairs pairs := .list apart
    exact ⟨first.sameRequests sizes ((HasPairs.list apart').perm same),
      first.sameRequests sizes ((HasPairs.hashMap apart').perm same),
      first.sameRequests sizes ((HasPairs.treeMap apart').perm same)⟩
  · intro σ τ _ _ source other agree
    exact sameRequests_of_firstParameter? sizes (firstParameter?_congr agree)

/-- A page size of blanks is passed over for the older spelling, and the oldest one does not matter;
a hash map and a tree map of the same pairs, the other way round, and a list without the two make the
same request. -/
theorem requests_resolved_sample :
    let pairs := [("pageSize", "ten"), ("name", " KEYS.Elev "), ("page-size", " "), ("pagesize", "20")]
    let fewer := [("name", "KEYS.Elev"), ("pagesize", "20")]
    let request : ReadingsRequest := ⟨"KEYS.Elev", none, none, none, none, none, none, 20⟩
    (pairs.map Prod.fst).Nodup ∧ pairs.reverse.Perm pairs ∧ AgreeWhereReached pairs fewer ∧
      readReadingsRequest pairs {} = .ok request ∧
      readReadingsRequest (Std.HashMap.ofList pairs.reverse) {} = .ok request ∧
      readReadingsRequest (Std.TreeMap.ofList pairs.reverse) {} = .ok request ∧
      readReadingsRequest fewer {} = .ok request ∧
      Takes [("pageSize", "ten"), ("page-size", " ")] .pageSize "pageSize" "ten" ∧
      readCatalogRequest [("pageSize", "ten"), ("page-size", " ")] {}
        = .error (.notInteger "pageSize" "ten") := by
  intro pairs fewer request
  have apart : (pairs.map Prod.fst).Nodup := by decide
  have same : pairs.reverse.Perm pairs := List.reverse_perm pairs
  have used : Takes pairs .pageSize "pagesize" "20" := takes_iff.2 (by rfl)
  have spelled : Parameter.pageSize.spellings = ["page-size"] ++ "pagesize" :: ["pageSize"] := rfl
  have agree : AgreeWhereReached pairs fewer :=
    used.agreeWhereReached spelled (by intro q; cases q <;> decide)
  have read : readReadingsRequest pairs {} = .ok request := by rfl
  obtain ⟨every, sources, outranked⟩ := requests_resolved {}
  obtain ⟨-, ⟨hash, -⟩, ⟨tree, -⟩⟩ := sources pairs pairs.reverse apart same
  have less := (outranked pairs fewer agree).1
  have oldest : Takes [("pageSize", "ten"), ("page-size", " ")] .pageSize "pageSize" "ten" :=
    takes_iff.2 (by rfl)
  refine ⟨apart, same, agree, read, hash ▸ read, tree ▸ read, less ▸ read, oldest, ?_⟩
  exact ((every _).2.2.2.2.2 _).2 (Or.inl ⟨_, _, oldest, by rfl, rfl⟩)

end HydroArchive
