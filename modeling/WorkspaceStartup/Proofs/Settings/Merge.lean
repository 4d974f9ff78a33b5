import WorkspaceStartup.Proofs.Json.Document
import WorkspaceStartup.Settings.Merge

/-!
# Members after a merge

A document lays the members that it gives over those of a target.  What it does
not give, or gives as null, stays as it was in the target.
-/

namespace WorkspaceStartup.Json

/-- A value that is there and is not null. -/
def present? : Option Json → Option Json
  | some .null => none
  | found => found

/-- What the last member of a name gives, unless this is null. -/
def given? (name : String) (members : List (String × Json)) : Option Json :=
  present? (lookUp? name members.reverse)

/-- A value over what lies below it, if anything does. -/
def laidOver (below : Option Json) (value : Json) : Json :=
  match below with
  | some below => mergeOver below value
  | none => value

@[simp] theorem present?_none : present? none = none := rfl

theorem present?_some {value : Json} (present : value ≠ .null) :
    present? (some value) = some value := by
  cases value with
  | null => exact (present rfl).elim
  | bool | number | text | array | object => rfl

theorem mergeMembers_cons {name : String} {value : Json}
    (present : value ≠ .null) (target source : List (String × Json)) :
    mergeMembers target ((name, value) :: source) =
      mergeMembers (fileEntry name (laidOver (lookUp? name target) value) target)
        source := by
  cases value with
  | null => exact (present rfl).elim
  | bool | number | text | array | object => rfl

theorem mergeMembers_ordered {target : List (String × Json)}
    (ordered : Ordered target) (source : List (String × Json)) :
    Ordered (mergeMembers target source) := by
  induction source generalizing target with
  | nil => exact ordered
  | cons member source induction =>
      obtain ⟨name, value⟩ := member
      by_cases absent : value = .null
      · subst absent
        exact induction ordered
      · rw [mergeMembers_cons absent]
        exact induction (fileEntry_ordered _ _ ordered)

/-- A member is merged with the one below it, and null with none. -/
theorem lookUp?_mergeMembers {source : List (String × Json)}
    (distinct : (source.map (·.1)).Nodup) (target : List (String × Json))
    (name : String) :
    lookUp? name (mergeMembers target source) =
      ((present? (lookUp? name source)).map (laidOver (lookUp? name target))).or
        (lookUp? name target) := by
  induction source generalizing target with
  | nil => rfl
  | cons member source induction =>
      obtain ⟨label, value⟩ := member
      obtain ⟨unlisted, others⟩ := List.nodup_cons.mp distinct
      have fresh : lookUp? label source = none :=
        lookUp?_eq_none_iff.mpr unlisted
      by_cases absent : value = .null
      · subst absent
        rw [mergeMembers, induction others, lookUp?_cons]
        split
        · next same =>
            cases same
            rw [fresh]
            rfl
        · rfl
      · -- The name does not come again, so what is filed under it here stays.
        rw [mergeMembers_cons absent, induction others, lookUp?_cons,
          lookUp?_fileEntry]
        by_cases same : label = name
        · subst same
          simp [fresh, present?_some absent]
        · simp [same, Ne.symm same]

theorem sorted_eq_null_iff {value : Json} :
    value.sorted = .null ↔ value = .null := by
  cases value <;> simp [sorted, filed]

theorem present?_map_sorted (found : Option Json) :
    present? (found.map sorted) = (present? found).map sorted := by
  cases found with
  | none => rfl
  | some value =>
      by_cases absent : value = .null
      · subst absent
        rfl
      · have present := mt sorted_eq_null_iff.mp absent
        rw [Option.map_some, present?_some absent, present?_some present]
        rfl

/-- The members of a document over those of a target. -/
theorem lookUp?_merged (name : String)
    (target members : List (String × Json)) :
    lookUp? name (mergeMembers target (fileEntries (sortedMembers members))) =
      ((given? name members).map fun held =>
        laidOver (lookUp? name target) held.sorted).or (lookUp? name target) := by
  have distinct := nodup_of_ordered (fileEntries_ordered (sortedMembers members))
  rw [lookUp?_mergeMembers distinct, lookUp?_filed, present?_map_sorted,
    Option.map_map]
  rfl

end WorkspaceStartup.Json
