import HydroArchive.Page.Query
import HydroArchive.Proofs.Page.Walk
import HydroArchive.Proofs.Text.Columns

/-!
# The order of catalogs

Catalog keys are compared by four columns, and the columns determine the key.  So the order is
strict between different keys, and a sorted listing whose keys differ stands in strictly ascending
order.  A key is also determined by its written form, as long as a slash stands in its identifier
only.

## Main definitions

* `CatalogKey.order` — the order of a catalog.
* `CatalogKey.Listed` — the rows of a catalog in its order, said without sorting.
* `CatalogKey.Resumable` — the keys that a cursor can carry.

## Main statements

* `ascending_sortRows` — a sorted listing whose keys differ ascends.
* `ofResumeKey_eq_ok_iff` — what is read from a text.
* `resumeEntry_resumeKey` — a resumable key is read back from a token.
* `ofResumeKey_resumeKey` — which keys survive being written and read.
-/

namespace HydroArchive.CatalogKey

/-! ## The order -/

theorem columns_inj {a b : CatalogKey} (h : a.columns Text.upper = b.columns Text.upper) :
    a = b := by
  cases a
  cases b
  simp only [columns, List.cons.injEq] at h
  obtain ⟨-, -, rfl, rfl, -⟩ := h
  rfl

theorem isAfter_iff {a b : CatalogKey} :
    a.isAfter b = true ↔ compare (b.columns Text.upper) (a.columns Text.upper) = .lt := beq_iff_eq

/-- Keys inherit the laws of their columns. -/
instance : Std.TransOrd CatalogKey where
  eq_swap {a b} := Std.OrientedOrd.eq_swap (a := a.columns Text.upper) (b := b.columns Text.upper)
  isLE_trans {a b c} h k := Std.TransOrd.isLE_trans (a := a.columns Text.upper)
    (b := b.columns Text.upper) (c := c.columns Text.upper) h k

/-- Only a key itself is tied with it. -/
instance : Std.LawfulEqOrd CatalogKey where
  compare_self {a} := Std.ReflOrd.compare_self (a := a.columns Text.upper)
  eq_of_compare {a b} h := by
    have tied : compare (a.columns Text.upper) (b.columns Text.upper) = .eq := h
    exact columns_inj (Std.LawfulEqOrd.eq_of_compare tied)

@[simp] theorem isAfter_irrefl (a : CatalogKey) : a.isAfter a = false := by
  have same : compare a a = .eq := Std.ReflOrd.compare_self
  rw [isAfter, same]
  rfl

theorem isAfter_trans {a b c : CatalogKey} (h : b.isAfter a = true) (k : c.isAfter b = true) :
    c.isAfter a = true := beq_iff_eq.2 (Std.TransCmp.lt_trans (beq_iff_eq.1 h) (beq_iff_eq.1 k))

def order : KeyOrder CatalogKey where
  before a b := b.isAfter a
  irrefl := isAfter_irrefl
  trans := isAfter_trans

/-- Of two different keys, the one that does not stand behind stands strictly in front. -/
theorem isAfter_of_columnsLE {a b : CatalogKey}
    (h : Text.columnsLE (a.columns Text.upper) (b.columns Text.upper)) (ne : a ≠ b) :
    b.isAfter a = true := isAfter_iff.2 (Text.compare_eq_lt h fun same => ne (columns_inj same))

variable {ρ : Type} {key : ρ → CatalogKey} {rows : List ρ}

theorem sortRows_perm (key : ρ → CatalogKey) (rows : List ρ) :
    (sortRows Text.upper key rows).Perm rows := Text.sortByColumns_perm _ _

theorem ascending_sortRows (distinct : (rows.map key).Nodup) :
    Ascending order key (sortRows Text.upper key rows) := by
  have sorted := (Text.sortedBy_sortByColumns (fun r => (key r).columns Text.upper) rows).ascending
  have differ : (sortRows Text.upper key rows).Pairwise fun a b => key a ≠ key b :=
    List.pairwise_map.1 (((sortRows_perm key rows).map key).nodup_iff.2 distinct)
  exact (sorted.and differ).imp fun h => isAfter_of_columnsLE h.1 h.2

/-- The rows of `source` in the order of a catalog.  Rows with the same key keep their order. -/
structure Listed (key : ρ → CatalogKey) (source rows : List ρ) : Prop where
  ascending : rows.Pairwise fun a b => (key a).isAfter (key b) = false
  stable : ∀ k, rows.filter (key · = k) = source.filter (key · = k)

/-- The columns of a catalog put its rows in order. -/
theorem listed_of_sortedBy {source : List ρ}
    (h : Text.SortedBy (fun r => (key r).columns Text.upper) source rows) :
    Listed key source rows where
  ascending := h.ascending.imp fun {a b} le => by
    rw [← Bool.not_eq_true, isAfter_iff]
    intro lt
    have swap : compare ((key a).columns Text.upper) ((key b).columns Text.upper)
        = (compare ((key b).columns Text.upper) ((key a).columns Text.upper)).swap :=
      Std.OrientedCmp.eq_swap
    rw [Text.columnsLE, swap, lt] at le
    cases le
  stable k := by
    have same : ∀ r, ((key r).columns Text.upper = k.columns Text.upper) = (key r = k) :=
      fun r => propext ⟨columns_inj, fun h => h ▸ rfl⟩
    simpa only [same] using h.stable (k.columns Text.upper)

/-! ## Written keys -/

/-- The keys that a cursor can carry: neither part is empty, and no slash stands in the office. -/
structure Resumable (k : CatalogKey) : Prop where
  office_ne : k.office ≠ ""
  noSlash : '/' ∉ k.office.toList
  id_ne : k.id ≠ ""

instance (k : CatalogKey) : Decidable k.Resumable :=
  decidable_of_iff (k.office ≠ "" ∧ '/' ∉ k.office.toList ∧ k.id ≠ "")
    ⟨fun h => ⟨h.1, h.2.1, h.2.2⟩, fun h => ⟨h.office_ne, h.noSlash, h.id_ne⟩⟩

theorem splitAtFirst_append {c : Char} {front : List Char} (h : c ∉ front) (behind : List Char) :
    Text.splitAtFirst c (front ++ c :: behind) = some (front, behind) := by
  induction front with
  | nil => simp [Text.splitAtFirst]
  | cons x xs ih =>
    have hx : x ≠ c := fun he => h (he ▸ List.mem_cons_self)
    rw [List.cons_append, Text.splitAtFirst, if_neg hx,
      ih fun hc => h (List.mem_cons_of_mem x hc), Option.map_some]

theorem eq_append_of_splitAtFirst {c : Char} {cs front behind : List Char}
    (h : Text.splitAtFirst c cs = some (front, behind)) : c ∉ front ∧ cs = front ++ c :: behind := by
  induction cs generalizing front with
  | nil => cases h
  | cons x xs ih =>
    rw [Text.splitAtFirst] at h
    split at h
    case isTrue here =>
      cases h
      exact ⟨List.not_mem_nil, here ▸ rfl⟩
    case isFalse other =>
      obtain ⟨⟨init, rest⟩, found, same⟩ := Option.map_eq_some_iff.1 h
      cases same
      obtain ⟨absent, rfl⟩ := ih found
      exact ⟨List.not_mem_cons_of_ne_of_not_mem (Ne.symm other) absent, rfl⟩

/-- What is read from a text is a resumable key, and the text is the written form of that key. -/
theorem ofResumeKey_eq_ok_iff {text : String} {k : CatalogKey} :
    ofResumeKey text = .ok k ↔ k.Resumable ∧ k.resumeKey = text := by
  constructor
  · intro h
    rw [ofResumeKey] at h
    split at h
    case h_1 c office d id found =>
      cases h
      obtain ⟨noSlash, whole⟩ := eq_append_of_splitAtFirst found
      refine ⟨⟨?_, ?_, ?_⟩, ?_⟩
      · simp
      · rwa [String.toList_ofList]
      · simp
      · rw [resumeKey, String.toList_ofList, String.toList_ofList, ← whole, String.ofList_toList]
    case h_2 => cases h
  · rintro ⟨h, rfl⟩
    obtain ⟨c, office, hoffice⟩ :=
      List.exists_cons_of_ne_nil (mt String.toList_eq_nil_iff.1 h.office_ne)
    obtain ⟨d, id, hid⟩ := List.exists_cons_of_ne_nil (mt String.toList_eq_nil_iff.1 h.id_ne)
    rw [ofResumeKey, resumeKey, String.toList_ofList, splitAtFirst_append h.noSlash, hoffice, hid]
    simp only [← hoffice, ← hid, String.ofList_toList]

theorem Resumable.ofResumeKey {k : CatalogKey} (h : k.Resumable) :
    CatalogKey.ofResumeKey k.resumeKey = .ok k := ofResumeKey_eq_ok_iff.2 ⟨h, rfl⟩

/-- Every other text is refused, and the refusal names it. -/
theorem ofResumeKey_eq_error {text : String} {e : CursorError} (h : ofResumeKey text = .error e) :
    e = .invalidResumeKey text := by
  rw [ofResumeKey] at h
  split at h
  · cases h
  · exact (Except.error.inj h).symm

/-- A written key never stands for the start of a catalog. -/
theorem resumeKey_ne (k : CatalogKey) : ¬ (k.resumeKey = "" ∨ k.resumeKey = startMark) := by
  have slash : '/' ∈ k.resumeKey.toList := by simp [resumeKey]
  rintro (he | he) <;> rw [he] at slash <;> exact absurd slash (by decide)

/-- A token with a resumable key asks for the rows after that key. -/
theorem resumeEntry_resumeKey {k : CatalogKey} (h : k.Resumable) (kind : PageKind)
    (total : Option UInt64) (size : Int32) :
    resumeEntry (some ⟨kind, k.resumeKey, total, size⟩) = .ok (.after k) := by
  simp only [resumeEntry, if_neg k.resumeKey_ne, h.ofResumeKey]
  rfl

/-- A token with a resumable key asks for a later page, whatever else it says. -/
theorem plan_of_resumeKey {k : CatalogKey} (h : k.Resumable) {token : PageToken}
    (same : token.resumeKey = k.resumeKey) (office : Option String) (requested : Int32) :
    ∃ plan, CatalogQuery.plan (some token) office requested = .ok plan ∧
      plan.isFirstPage = false ∧ plan.query.after = .after k := by
  obtain ⟨kind, key, total, size⟩ := token
  subst same
  have after := resumeEntry_resumeKey h kind total size
  exact ⟨_, by rw [CatalogQuery.plan, after]; rfl, rfl, rfl⟩

/-- Reading and writing of resume keys.  Exactly the resumable keys are read back.  What is read
from a text is written as that text, and a text that is refused is named.  Resumable keys are
written differently from one another and from the texts that stand for the start of a catalog, so
that their tokens ask for later pages. -/
theorem ofResumeKey_resumeKey :
    (∀ k : CatalogKey, ofResumeKey k.resumeKey = .ok k ↔
      k.office ≠ "" ∧ '/' ∉ k.office.toList ∧ k.id ≠ "") ∧
    (∀ text k, ofResumeKey text = .ok k → k.resumeKey = text) ∧
    (∀ text, (∃ k, ofResumeKey text = .ok k) ∨
      ofResumeKey text = .error (.invalidResumeKey text)) ∧
    (∀ a b : CatalogKey, a.Resumable → b.Resumable → a.resumeKey = b.resumeKey → a = b) ∧
    (∀ k : CatalogKey, k.Resumable → k.resumeKey ≠ "" ∧ k.resumeKey ≠ startMark ∧
      ∀ (token : PageToken) (office : Option String) (requested : Int32),
        token.resumeKey = k.resumeKey →
        ∃ plan, CatalogQuery.plan (some token) office requested = .ok plan ∧
          plan.isFirstPage = false ∧ plan.query.after = .after k) := by
  refine ⟨fun k => ?_, fun text k h => (ofResumeKey_eq_ok_iff.1 h).2, fun text => ?_,
    fun a b ha hb same => ?_, fun k h => ?_⟩
  · rw [ofResumeKey_eq_ok_iff]
    constructor
    · rintro ⟨h, -⟩
      exact ⟨h.office_ne, h.noSlash, h.id_ne⟩
    · rintro ⟨office_ne, noSlash, id_ne⟩
      exact ⟨⟨office_ne, noSlash, id_ne⟩, rfl⟩
  · cases read : ofResumeKey text with
    | ok k => exact .inl ⟨k, rfl⟩
    | error e => exact .inr (congrArg _ (ofResumeKey_eq_error read))
  · exact Except.ok.inj ((same ▸ ha.ofResumeKey).symm.trans hb.ofResumeKey)
  · have apart := not_or.1 k.resumeKey_ne
    exact ⟨apart.1, apart.2, fun token office requested same =>
      plan_of_resumeKey h same office requested⟩

/-- An identifier may hold slashes.  Of two keys with one written form, the one with the slash in
its office does not come back. -/
theorem ofResumeKey_resumeKey_sample :
    ofResumeKey "SWT/KEYS/Elev" = .ok ⟨"SWT", "KEYS/Elev"⟩ ∧
      (⟨"SWT", "KEYS/Elev"⟩ : CatalogKey).resumeKey = "SWT/KEYS/Elev" ∧
      ofResumeKey (⟨"SWT/KEYS", "Elev"⟩ : CatalogKey).resumeKey ≠ .ok ⟨"SWT/KEYS", "Elev"⟩ ∧
      ∃ plan, CatalogQuery.plan (some ⟨.catalog, "SWT/KEYS/Elev", some 3, 25⟩) none 50 = .ok plan ∧
        plan.isFirstPage = false ∧ plan.query.after = .after ⟨"SWT", "KEYS/Elev"⟩ := by
  obtain ⟨readBack, written, -, -, later⟩ := ofResumeKey_resumeKey
  have read : ofResumeKey "SWT/KEYS/Elev" = .ok ⟨"SWT", "KEYS/Elev"⟩ := by decide
  have resumable : (⟨"SWT", "KEYS/Elev"⟩ : CatalogKey).Resumable := by decide
  have whole := written _ _ read
  exact ⟨read, whole, mt (readBack ⟨"SWT/KEYS", "Elev"⟩).1 (by decide),
    (later _ resumable).2.2 ⟨.catalog, "SWT/KEYS/Elev", some 3, 25⟩ none 50 whole.symm⟩

end HydroArchive.CatalogKey
