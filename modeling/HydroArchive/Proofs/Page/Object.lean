import HydroArchive.Proofs.Page.Cursor

/-!
# Which objects are records

An object is the record of a structured cursor if each of the five fields has a value of its own
kind: the version, the kind of pages and the resume key exactly once, the total at most once.
Fields with other names do not count, and neither does the order of the fields.

## Main definitions

* `PageRecord.SpelledBy` — the fields spell a record.

## Main statements

* `PageRecord.ofValue?_object_iff` — the objects that are read as a record.
-/

namespace HydroArchive

open Json (Value)

namespace PageKind

@[simp] theorem ofName?_eq_some {name : String} {k : PageKind} : ofName? name = some k ↔ name = k.name := by
  constructor
  · intro h
    unfold ofName? at h
    split at h <;> cases h <;> rfl
  · rintro rfl
    exact ofName?_name k

end PageKind

namespace PageRecord

/-! ## Values -/

@[simp] theorem integer?_eq_some {min max n : Int} {v : Value} :
    integer? min max v = some n ↔ v = .number (some n) ∧ min ≤ n ∧ n ≤ max := by
  constructor
  · intro h
    unfold integer? at h
    split at h
    · split at h
      case isTrue range =>
        cases h
        exact ⟨rfl, range⟩
      case isFalse => cases h
    · cases h
  · rintro ⟨rfl, range⟩
    exact if_pos range

@[simp] theorem version?_eq_some {v : Value} {n : UInt32} :
    version? v = some n ↔ v = .number (some n.toNat) := by
  refine ⟨fun h => ?_, fun h => h ▸ version?_number n⟩
  obtain ⟨k, number, rfl⟩ := Option.map_eq_some_iff.1 h
  obtain ⟨rfl, low, high⟩ := integer?_eq_some.1 number
  rw [Text.maxNatural32] at high
  rw [UInt32.toNat_ofNat', Nat.mod_eq_of_lt (by omega), Int.toNat_of_nonneg low]

@[simp] theorem size?_eq_some {v : Value} {n : Int32} : size? v = some n ↔ v = .number (some n.toInt) := by
  refine ⟨fun h => ?_, fun h => h ▸ size?_number n⟩
  obtain ⟨k, number, rfl⟩ := Option.map_eq_some_iff.1 h
  obtain ⟨rfl, low, high⟩ := integer?_eq_some.1 number
  rw [Text.minInteger32] at low
  rw [Text.maxInteger32] at high
  rw [Int32.toInt_ofInt_of_le (by omega) (by omega)]

theorem text?_eq_some {v : Value} {s : String} :
    text? v = some s ↔ ∃ raw, Json.unquote? raw = some s ∧ v = .quoted raw := by
  constructor
  · intro h
    unfold text? at h
    split at h
    · rename_i raw
      exact ⟨raw, h, rfl⟩
    · cases h
  · rintro ⟨raw, h, rfl⟩
    exact h

theorem kind?_eq_some {v : Value} {k : PageKind} :
    kind? v = some k ↔ ∃ raw, Json.unquote? raw = some k.name ∧
      (v = .quoted raw ∨ v = .object [(raw, .null)]) := by
  have named {raw : List UInt8} :
      (Json.unquote? raw).bind PageKind.ofName? = some k ↔ Json.unquote? raw = some k.name := by
    simp [Option.bind_eq_some_iff]
  constructor
  · intro h
    unfold kind? at h
    split at h
    · rename_i raw
      exact ⟨raw, named.1 h, Or.inl rfl⟩
    · rename_i raw
      exact ⟨raw, named.1 h, Or.inr rfl⟩
    · cases h
  · rintro ⟨raw, h, rfl | rfl⟩ <;> exact named.2 h

/-- What the values of the field `total` say: nothing or `null` leaves the total unknown. -/
inductive SpellsTotal : Option UInt64 → List Value → Prop
  | absent : SpellsTotal none []
  | null : SpellsTotal none [.null]
  | known (n : UInt64) : SpellsTotal (some n) [.number (some n.toNat)]

@[simp] theorem total?_eq_some {v : Value} {total : Option UInt64} :
    total? v = some total ↔ SpellsTotal total [v] := by
  constructor
  · intro h
    unfold total? at h
    split at h
    · cases h
      exact .null
    · obtain ⟨k, number, rfl⟩ := Option.map_eq_some_iff.1 h
      obtain ⟨rfl, low, high⟩ := integer?_eq_some.1 number
      rw [Text.maxNatural64] at high
      have value : ((UInt64.ofNat k.toNat).toNat : Int) = k := by
        rw [UInt64.toNat_ofNat', Nat.mod_eq_of_lt (by omega), Int.toNat_of_nonneg low]
      have known := SpellsTotal.known (UInt64.ofNat k.toNat)
      rwa [value] at known
  · intro h
    cases h with
    | null => rfl
    | known n => exact total?_number n

/-! ## Fields -/

/-- The fields spell a record.  Fields with other names do not count. -/
structure SpelledBy (r : PageRecord) (fields : List (String × Value)) : Prop where
  version : valuesOf "v" fields = [.number (some r.version.toNat)]
  kind : ∃ raw, Json.unquote? raw = some r.kind.name ∧
    (valuesOf "kind" fields = [.quoted raw] ∨ valuesOf "kind" fields = [.object [(raw, .null)]])
  key : ∃ raw, Json.unquote? raw = some r.key ∧ valuesOf "key" fields = [.quoted raw]
  total : SpellsTotal r.total (valuesOf "total" fields)
  size : valuesOf "size" fields = [.number (some r.size.toInt)]

@[simp] theorem required?_eq_some {name : String} {fields : List (String × Value)} {v : Value} :
    required? name fields = some v ↔ valuesOf name fields = [v] := by
  unfold required?
  split
  · rename_i w h
    simp [h]
  · rename_i other
    constructor
    · intro h
      cases h
    · intro h
      exact absurd h (other v)

theorem optional?_bind_total? {name : String} {fields : List (String × Value)}
    {total : Option UInt64} :
    (optional? name fields).bind total? = some total ↔
      SpellsTotal total (valuesOf name fields) := by
  unfold optional?
  split
  · rename_i none
    rw [none]
    constructor
    · intro h
      cases h
      exact .absent
    · rintro ⟨⟩
      rfl
  · rename_i v one
    rw [one]
    exact total?_eq_some
  · rename_i notNone notOne
    constructor
    · intro h
      cases h
    · intro h
      generalize valuesOf name fields = values at h notNone notOne
      cases h with
      | absent => exact absurd rfl notNone
      | null => exact absurd rfl (notOne _)
      | known n => exact absurd rfl (notOne _)

/-- An object is read as a record exactly if its fields spell the record. -/
theorem ofValue?_object_iff {raw : List (List UInt8 × Value)} {r : PageRecord} :
    ofValue? (.object raw) = some r ↔
      ∃ fields, namedFields? raw = some fields ∧ r.SpelledBy fields := by
  rw [ofValue?, Option.bind_eq_bind, Option.bind_eq_some_iff]
  refine exists_congr fun fields => and_congr_right fun _ => ?_
  constructor
  · intro h
    simp only [Option.bind_eq_bind, Option.bind_eq_some_iff, required?_eq_some, version?_eq_some,
      kind?_eq_some, text?_eq_some, size?_eq_some, Option.some_inj] at h
    obtain ⟨_, hv, version, rfl, v, hk, kind, ⟨rawKind, named, isKind⟩, _, hkey, key,
      ⟨rawKey, text, rfl⟩, a, found, total, isTotal, _, hs, size, rfl, rfl⟩ := h
    have kinds : valuesOf "kind" fields = [.quoted rawKind] ∨
        valuesOf "kind" fields = [.object [(rawKind, .null)]] := by
      rcases isKind with rfl | rfl
      · exact .inl hk
      · exact .inr hk
    exact {
      version := hv
      kind := ⟨rawKind, named, kinds⟩
      key := ⟨rawKey, text, hkey⟩
      total := optional?_bind_total?.1 (Option.bind_eq_some_iff.2 ⟨a, found, isTotal⟩)
      size := hs }
  · intro spelled
    obtain ⟨rawKind, named, isKind⟩ := spelled.kind
    obtain ⟨rawKey, text, hkey⟩ := spelled.key
    obtain ⟨a, found, isTotal⟩ := Option.bind_eq_some_iff.1 (optional?_bind_total?.2 spelled.total)
    have kind : ∃ v, required? "kind" fields = some v ∧ kind? v = some r.kind := by
      rcases isKind with one | one
      · exact ⟨_, required?_eq_some.2 one, kind?_eq_some.2 ⟨rawKind, named, .inl rfl⟩⟩
      · exact ⟨_, required?_eq_some.2 one, kind?_eq_some.2 ⟨rawKind, named, .inr rfl⟩⟩
    obtain ⟨v, hk, kind⟩ := kind
    simp only [required?_eq_some.2 spelled.version, hk, required?_eq_some.2 hkey, found,
      required?_eq_some.2 spelled.size, Option.bind_eq_bind, Option.bind_some, version?_number,
      kind, text?, text, isTotal, size?_number]

end PageRecord

end HydroArchive
