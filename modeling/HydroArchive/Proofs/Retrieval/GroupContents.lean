import Mathlib.Data.Int.ConditionallyCompleteOrder
import Mathlib.Data.Prod.Lex
import Mathlib.Data.String.Basic
import Mathlib.Order.ConditionallyCompleteLattice.Basic
import HydroArchive.Proofs.Page.Fold
import HydroArchive.Proofs.Retrieval.Origin
import HydroArchive.Proofs.Text.Columns
import HydroArchive.Retrieval.Reference

/-!
# What a group of locations holds

A group is looked up by the names of its office, of its category and of its own.  Three rules of
case meet there.  Groups and assignments are found without regard to the case of `A` to `Z`, the
assignments are ordered by the full upper case of their locations, and the joined rows are folded
under the full upper case of the names.  As all rows of an answer carry one group, the last rule
never merges anything.

## Main definitions

* `groupName` — the names of a group, up to case.
* `Assignment.place` — what decides where an assignment stands in its group.
* `InGroupOrder` — the order in which a group lists its assignments, said without sorting.

## Main statements

* `standsBefore_iff` — the comparison of assignments is the order of their places.
* `inGroupOrder_mergeSort` — sorting by it lists the assignments in the order of the group.
* `MemoryStore.findLocationGroup_eq` — the answer to a lookup, where the store is healthy.
* `MemoryStore.locationGroup_contents` — which group is found and what it holds.
-/

namespace HydroArchive

/-! ## Names -/

/-- The names of an office, a category and a group, without regard to case. -/
def groupName (office category group : String) : List (List Char) :=
  [office, category, group].map Text.asciiFold

/-- The names that a group goes by. -/
def LocationGroup.name (g : LocationGroup) : List (List Char) :=
  groupName g.office g.category.id g.id

/-- The names of the group that an assignment was made to. -/
def StoredAssignment.groupName (a : StoredAssignment) : List (List Char) :=
  HydroArchive.groupName a.assignment.office a.category a.group

theorem groupName_eq_iff {o c g o' c' g' : String} :
    groupName o c g = groupName o' c' g' ↔
      Text.sameFold o o' = true ∧ Text.sameFold c c' = true ∧ Text.sameFold g g' = true := by
  simp [groupName, Text.sameFold_iff]

theorem StoredAssignment.belongsTo_eq (a : StoredAssignment) (office category group : String) :
    a.belongsTo office category group
      = decide (a.groupName = HydroArchive.groupName office category group) := by
  rw [Bool.eq_iff_iff, decide_eq_true_iff, StoredAssignment.groupName, groupName_eq_iff, belongsTo]
  simp [and_assoc]

/-! ## The order of a group -/

/-- What decides where an assignment stands in its group: its rank, where none comes after all
others, and then the upper case of its location. -/
def Assignment.place (a : Assignment) : WithTop Int ×ₗ String :=
  toLex (a.rank, Text.upper a.location)

/-- The assignments that were made, listed in the order of their places; those with the same place
stand in the order in which they were made. -/
structure InGroupOrder (made listed : List Assignment) : Prop where
  all : listed.Perm made
  ascending : listed.Pairwise fun a b => a.place ≤ b.place
  stable : ∀ place, listed.filter (·.place = place) = made.filter (·.place = place)

@[simp] theorem Text.columnsLE_singleton {s t : String} : columnsLE [s] [t] = true ↔ s ≤ t := by
  have one : compare [s] [t] = compare s t := by
    change List.compareLex compare [s] [t] = compare s t
    cases h : compare s t <;> simp [List.compareLex, h]
  rw [columnsLE, one, ← not_lt, ← compare_gt_iff_gt]
  cases compare s t <;> simp

@[simp] theorem standsBefore_iff {a b : Assignment} :
    a.standsBefore Text.upper b = true ↔ a.place ≤ b.place := by
  rw [Assignment.place, Assignment.place, Prod.Lex.toLex_le_toLex, Assignment.standsBefore]
  cases a.rank with
  | none =>
    cases b.rank with
    | none => simp [WithTop.none_eq_top]
    | some n => simp [WithTop.none_eq_top, WithTop.some_eq_coe]
  | some m =>
    cases b.rank with
    | none => simp [WithTop.none_eq_top, WithTop.some_eq_coe]
    | some n => simp [WithTop.some_eq_coe]

/-- Sorting by the comparison lists the assignments in the order of the group. -/
theorem inGroupOrder_mergeSort (made : List Assignment) :
    InGroupOrder made (made.mergeSort (Assignment.standsBefore Text.upper)) := by
  have trans (a b c : Assignment) (h : a.standsBefore Text.upper b = true)
      (k : b.standsBefore Text.upper c = true) : a.standsBefore Text.upper c = true :=
    standsBefore_iff.2 (le_trans (standsBefore_iff.1 h) (standsBefore_iff.1 k))
  have total (a b : Assignment) :
      (a.standsBefore Text.upper b || b.standsBefore Text.upper a) = true := by
    rw [Bool.or_eq_true, standsBefore_iff, standsBefore_iff]
    exact le_total a.place b.place
  refine ⟨List.mergeSort_perm _ _, ?_, fun place => ?_⟩
  · exact (List.pairwise_mergeSort trans total made).imp standsBefore_iff.1
  · refine Text.filter_mergeSort_of_tied trans total (fun a b ha hb => ?_) made
    rw [standsBefore_iff, of_decide_eq_true ha, of_decide_eq_true hb]

/-! ## Rows -/

@[simp] theorem fold_groupRows (g : LocationGroup) (assigned : List Assignment) :
    fold GroupRow.join (g.rows assigned) = [⟨g, assigned⟩] := by
  cases assigned with
  | nil => exact fold_cons GroupRow.join ⟨g, none⟩ []
  | cons a rest =>
    let rows := rest.map fun b => GroupRow.mk g (some b)
    have own : ∀ r ∈ rows, GroupRow.join.key r = GroupRow.join.key ⟨g, some a⟩ := by
      intro r hr
      obtain ⟨b, -, rfl⟩ := List.mem_map.1 hr
      rfl
    have mine : rows.filter (GroupRow.join.key · = GroupRow.join.key ⟨g, some a⟩) = rows :=
      List.filter_eq_self.2 fun r hr => decide_eq_true (own r hr)
    have others : rows.filter (GroupRow.join.key · ≠ GroupRow.join.key ⟨g, some a⟩) = [] :=
      List.filter_eq_nil_iff.2 fun r hr => by simpa using own r hr
    change fold GroupRow.join (⟨g, some a⟩ :: rows) = _
    rw [fold_cons, mine, others]
    simp [GroupRow.join, rows, List.filterMap_map, fold, Folder.finish, Folder.empty]

namespace MemoryStore

variable {m : MemoryStore}

theorem findGroup?_eq (m : MemoryStore) (office category group : String) :
    m.findGroup? office category group
      = m.locationGroups.find? (·.name = groupName office category group) := by
  rw [findGroup?]
  congr 1
  funext g
  rw [Bool.eq_iff_iff, decide_eq_true_iff, LocationGroup.name, groupName_eq_iff]
  simp [and_assoc]

theorem assignmentsTo_eq (m : MemoryStore) (office category group : String) :
    m.assignmentsTo office category group
      = ((m.assignments.filter (·.groupName = groupName office category group)).map
          StoredAssignment.assignment).mergeSort (Assignment.standsBefore Text.upper) := by
  rw [assignmentsTo]
  simp only [StoredAssignment.belongsTo_eq]

/-- A healthy store answers with the first group of the name and all that is assigned to it. -/
theorem findLocationGroup_eq (healthy : m.healthy = true) (office category group : String) :
    findLocationGroup m.queries office category group
      = match m.findGroup? office category group with
        | some g => .ok ⟨g, m.assignmentsTo office category group⟩
        | none => .error (.notFound .locationGroup s!"{category}/{group}") := by
  rw [findLocationGroup]
  simp only [queries, whenHealthy_of_healthy healthy, groupRows, bind, Except.bind, Except.mapError]
  cases m.findGroup? office category group with
  | none => rfl
  | some g => simp only [fold_groupRows]; rfl

/-- Of the names in a request only what they are up to case matters for what is found. -/
theorem findLocationGroup_eq_ok (healthy : m.healthy = true) {office category group : String}
    {contents : GroupContents} :
    findLocationGroup m.queries office category group = .ok contents ↔
      m.locationGroups.find? (·.name = groupName office category group) = some contents.group ∧
        contents.assigned = ((m.assignments.filter
          (·.groupName = groupName office category group)).map
            StoredAssignment.assignment).mergeSort (Assignment.standsBefore Text.upper) := by
  rw [findLocationGroup_eq healthy, findGroup?_eq, assignmentsTo_eq]
  cases m.locationGroups.find? (·.name = groupName office category group) with
  | none => simp
  | some g =>
    obtain ⟨k, assigned⟩ := contents
    simp [eq_comm]

/-- A group that is asked for by its office, its category and its own name, in any case, is not
found exactly if none goes by these names.  Otherwise it is the first one that does, and it holds
the assignments that were made to these names, in the order of a group, and no others. -/
theorem locationGroup_contents (healthy : m.healthy = true) (office category group : String) :
    let name := groupName office category group
    let answer := findLocationGroup m.queries office category group
    (answer = .error (.notFound .locationGroup s!"{category}/{group}") ↔
        ∀ g ∈ m.locationGroups, g.name ≠ name) ∧
      ((∃ g ∈ m.locationGroups, g.name = name) →
        ∃ front g behind assigned, m.locationGroups = front ++ g :: behind ∧
          (∀ k ∈ front, k.name ≠ name) ∧ g.name = name ∧
          answer = .ok ⟨g, assigned⟩ ∧
          InGroupOrder ((m.assignments.filter (·.groupName = name)).map
            StoredAssignment.assignment) assigned) ∧
      ∀ office' category' group', Text.sameFold office' office = true →
        Text.sameFold category' category = true → Text.sameFold group' group = true →
          ∀ contents, findLocationGroup m.queries office' category' group' = .ok contents ↔
            answer = .ok contents := by
  intro name answer
  refine ⟨?_, ?_, ?_⟩
  · have missing : answer = .error (.notFound .locationGroup s!"{category}/{group}") ↔
        m.findGroup? office category group = none := by
      simp only [answer, findLocationGroup_eq healthy]
      cases m.findGroup? office category group <;> simp
    rw [missing, findGroup?_eq, List.find?_eq_none]
    simp [name]
  · rintro ⟨g, there, named⟩
    have some : (m.locationGroups.find? (·.name = name)).isSome :=
      List.find?_isSome.2 ⟨g, there, decide_eq_true named⟩
    obtain ⟨first, found⟩ := Option.isSome_iff_exists.1 some
    obtain ⟨own, front, behind, parts, others⟩ := List.find?_eq_some_iff_append.1 found
    refine ⟨front, first, behind, _, parts, fun k hk => ?_, of_decide_eq_true own,
      (findLocationGroup_eq_ok healthy).2 ⟨found, rfl⟩, inGroupOrder_mergeSort _⟩
    simpa using others k hk
  · intro office' category' group' sameOffice sameCategory sameGroup contents
    have same : groupName office' category' group' = name :=
      groupName_eq_iff.2 ⟨sameOffice, sameCategory, sameGroup⟩
    rw [findLocationGroup_eq_ok healthy, findLocationGroup_eq_ok healthy, same]

/-- Groups of one name in two offices, and assignments to them and to one of another category. -/
def sampleGroups : MemoryStore where
  locationGroups := [⟨⟨"LRL", "Basin", none⟩, "LRL", "Arkansas", none, none, none, none⟩,
    ⟨⟨"SWT", "Basin", none⟩, "SWT", "Arkansas", some "first", none, none, some 1⟩,
    ⟨⟨"SWT", "basin", none⟩, "swt", "ARKANSAS", some "second", none, none, none⟩]
  assignments := [⟨"Basin", "Arkansas", ⟨"KEYS", "SWT", none, none, none⟩⟩,
    ⟨"Agency", "Arkansas", ⟨"KEYS", "SWT", none, some 0, none⟩⟩,
    ⟨"BASIN", "arkansas", ⟨"keys", "swt", some "Keystone", some 2, none⟩⟩,
    ⟨"Basin", "Arkansas", ⟨"brok", "SWT", none, some 2, none⟩⟩,
    ⟨"Basin", "Arkansas", ⟨"KEYS", "SWT", some "again", some 2, none⟩⟩]

/-- The first of the two groups of the office is found, with four assignments, of which three name
one location. -/
theorem locationGroup_contents_sample :
    sampleGroups.healthy = true ∧ ∃ assigned,
      findLocationGroup sampleGroups.queries "Swt" "basin" "arkansas"
        = .ok ⟨⟨⟨"SWT", "Basin", none⟩, "SWT", "Arkansas", some "first", none, none, some 1⟩,
            assigned⟩ ∧
      InGroupOrder [⟨"KEYS", "SWT", none, none, none⟩, ⟨"keys", "swt", some "Keystone", some 2, none⟩,
        ⟨"brok", "SWT", none, some 2, none⟩, ⟨"KEYS", "SWT", some "again", some 2, none⟩]
        assigned := by
  have named := (locationGroup_contents (m := sampleGroups) rfl "Swt" "basin" "arkansas").2.1
  obtain ⟨front, g, behind, assigned, parts, others, own, answer, order⟩ :=
    named ⟨_, List.mem_cons_of_mem _ List.mem_cons_self, by decide⟩
  refine ⟨rfl, assigned, ?_, order⟩
  match front with
  | [] =>
    cases parts
    exact absurd own (by decide)
  | [_] =>
    cases parts
    exact answer
  | _ :: second :: _ =>
    have early : sampleGroups.locationGroups[1]? = some second := by rw [parts]; rfl
    cases early
    exact absurd (by decide) (others _ (List.mem_cons_of_mem _ List.mem_cons_self))

end MemoryStore

end HydroArchive
