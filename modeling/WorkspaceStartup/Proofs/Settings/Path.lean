import WorkspaceStartup.Proofs.Json.Filed
import WorkspaceStartup.Proofs.Settings.Merge

/-!
# Merging path by path

A path of names leads through objects to a value inside a value.  What a source
gives at the end of a path, if it is neither null nor an object, is there after
the source was merged over any target.  What a target holds at the end of a path
stays there if the source has null or nothing somewhere on the way.  Merging the
same source once more changes nothing.
-/

namespace WorkspaceStartup.Json

variable {target source inner held : Json} {name : String}
  {path shorter : List String}

/-- The value to which a path of names leads through objects. -/
def at? : Json → List String → Option Json
  | value, [] => some value
  | value, name :: path => (value.member? name).bind fun inner => inner.at? path

theorem at?_cons_eq_some_iff :
    source.at? (name :: path) = some held ↔
      ∃ inner, source.member? name = some inner ∧ inner.at? path = some held :=
  Option.bind_eq_some_iff

theorem at?_cons_of_member (found : source.member? name = some inner) :
    source.at? (name :: path) = inner.at? path := by
  rw [at?, found, Option.bind_some]

/-- Only an object has members. -/
theorem exists_members_of_member? (found : source.member? name = some inner) :
    ∃ members, source = .object members := by
  cases source with
  | object members => exact ⟨members, rfl⟩
  | null | bool | number | text | array => cases found

theorem exists_members_or_not_isObject (value : Json) :
    (∃ members, value = .object members) ∨ value.isObject = false := by
  cases value with
  | object members => exact .inl ⟨members, rfl⟩
  | null | bool | number | text | array => exact .inr rfl

/-! ## One name -/

theorem mergeOver_of_not_isObject (plain : source.isObject = false) :
    mergeOver target source = source := by
  cases source with
  | object => cases plain
  | null | bool | number | text | array => rfl

theorem mergeOver_of_target_not_isObject (plain : target.isObject = false) :
    mergeOver target source = source := by
  cases source with
  | object =>
      cases target with
      | object => cases plain
      | null | bool | number | text | array => rfl
  | null | bool | number | text | array => rfl

theorem mergeOver_null (source : Json) : mergeOver .null source = source := by
  cases source <;> rfl

theorem member?_object (members : List (String × Json)) (name : String) :
    (object members).member? name = lookUp? name members :=
  rfl

/-- A member that is not null is laid over the target's member of that name. -/
theorem member?_mergeOver_of_present (filed : source.Filed)
    (found : source.member? name = some inner) (present : inner ≠ .null) :
    (mergeOver target source).member? name =
      some (laidOver (target.member? name) inner) := by
  obtain ⟨members, rfl⟩ := exists_members_of_member? found
  cases target with
  | null | bool | number | text | array => exact found
  | object below =>
      rw [member?_object] at found
      rw [mergeOver, member?_object, member?_object,
        lookUp?_mergeMembers (nodup_of_ordered filed.1), found,
        present?_some present]
      rfl

/-- Where an object has null or nothing, the target's member stays. -/
theorem member?_mergeOver_of_absent (filed : source.Filed)
    (isObject : source.isObject = true)
    (absent : present? (source.member? name) = none)
    (below : target.member? name = some held) :
    (mergeOver target source).member? name = some held := by
  obtain ⟨members, rfl⟩ := exists_members_of_member? below
  cases source with
  | null | bool | number | text | array => cases isObject
  | object given =>
      rw [member?_object] at absent below
      rw [mergeOver, member?_object,
        lookUp?_mergeMembers (nodup_of_ordered filed.1), absent, below]
      rfl

theorem present?_eq_none_of_withheld
    (withheld : source.at? [name] = none ∨ source.at? [name] = some .null) :
    present? (source.member? name) = none := by
  cases member : source.member? name with
  | none => rfl
  | some value =>
      rw [at?_cons_of_member member] at withheld
      rcases withheld with nothing | isNull
      · cases nothing
      · cases isNull
        rfl

/-! ## Whole paths -/

/-- The source decides where it holds a value that is no object. -/
theorem at?_mergeOver_of_given (filed : source.Filed)
    (given : source.at? path = some held) (present : held ≠ .null)
    (plain : held.isObject = false) :
    (mergeOver target source).at? path = some held := by
  induction path generalizing target source with
  | nil =>
      cases given
      exact congrArg some (mergeOver_of_not_isObject plain)
  | cons name path induction =>
      obtain ⟨inner, found, further⟩ := at?_cons_eq_some_iff.mp given
      have innerPresent : inner ≠ .null := by
        rintro rfl
        cases path with
        | nil => exact present (Option.some.inj further).symm
        | cons next rest => cases further
      rw [at?_cons_eq_some_iff]
      refine ⟨_, member?_mergeOver_of_present filed found innerPresent, ?_⟩
      cases target.member? name with
      | none => exact further
      | some below => exact induction (filed.member found) further

/-- The target decides where the source has null or nothing on the way. -/
theorem at?_mergeOver_of_withheld (filed : source.Filed)
    (isObject : source.isObject = true)
    (below : target.at? path = some held) (onTheWay : shorter <+: path)
    (objects : ∀ before, before <+: shorter → before ≠ shorter →
      ∃ members, source.at? before = some (.object members))
    (withheld : source.at? shorter = none ∨
      source.at? shorter = some .null) :
    (mergeOver target source).at? path = some held := by
  induction shorter generalizing target source path with
  | nil =>
      -- The source itself is there, and it is an object.
      rcases withheld with nothing | isNull
      · cases nothing
      · cases isNull
        cases isObject
  | cons name shorter induction =>
      obtain ⟨rest, rfl⟩ := onTheWay
      obtain ⟨inner, found, further⟩ := at?_cons_eq_some_iff.mp below
      rw [List.cons_append, at?_cons_eq_some_iff]
      cases shorter with
      | nil =>
          have absent := present?_eq_none_of_withheld withheld
          exact ⟨inner, member?_mergeOver_of_absent filed isObject absent found,
            further⟩
      | cons next shorter =>
          -- The source has an object under the name, and the way leads into it.
          obtain ⟨members, first⟩ := objects [name] ⟨next :: shorter, rfl⟩
            (by simp)
          obtain ⟨value, member, isValue⟩ := at?_cons_eq_some_iff.mp first
          cases isValue
          refine ⟨_, member?_mergeOver_of_present filed member (by simp), ?_⟩
          rw [found]
          refine induction (filed.member member) rfl further
            (List.prefix_append ..) ?_ ?_
          · intro before inside differs
            have longer := objects (name :: before)
              (List.cons_prefix_cons.mpr ⟨rfl, inside⟩) (by simpa using differs)
            rwa [at?_cons_of_member member] at longer
          · rwa [at?_cons_of_member member] at withheld

/-! ## Merging again -/

/-- Objects are built from what is found in them. -/
theorem member_induction {holds : Json → Prop}
    (plain : ∀ value, value.isObject = false → holds value)
    (object : ∀ members,
      (∀ name inner, lookUp? name members = some inner → holds inner) →
      holds (.object members)) : (value : Json) → holds value
  | .object members =>
      object members fun _ inner _ => member_induction plain object inner
  | .null => plain _ rfl
  | .bool _ => plain _ rfl
  | .number _ => plain _ rfl
  | .text _ => plain _ rfl
  | .array _ => plain _ rfl
termination_by value => sizeOf value
decreasing_by
  next found =>
    have smaller := List.sizeOf_lt_of_mem (mem_of_lookUp?_eq_some found)
    simp at smaller ⊢
    omega

/-- Nothing below a value is as good as null below it. -/
theorem laidOver_eq (below : Option Json) (value : Json) :
    laidOver below value = mergeOver (below.getD .null) value := by
  cases below with
  | none => exact (mergeOver_null value).symm
  | some below => rfl

theorem eq_some_of_present? {found : Option Json} {value : Json}
    (present : present? found = some value) : found = some value := by
  cases found with
  | none => cases present
  | some other =>
      by_cases absent : other = .null
      · subst absent
        cases present
      · exact (present?_some absent).symm.trans present

/-- What lies below a member, or null in its absence, is filed. -/
theorem filed_member_or_null (filed : target.Filed) (name : String) :
    ((target.member? name).getD .null).Filed := by
  cases held : target.member? name with
  | none => trivial
  | some below => exact filed.member held

/-- A merge of filed values is filed. -/
theorem mergeOver_filed (targetFiled : target.Filed)
    (sourceFiled : source.Filed) : (mergeOver target source).Filed := by
  induction source using member_induction generalizing target with
  | plain source plain =>
      rw [mergeOver_of_not_isObject plain]
      exact sourceFiled
  | object members induction =>
      obtain ⟨below, rfl⟩ | plain := exists_members_or_not_isObject target
      · refine filed_object (mergeMembers_ordered targetFiled.1 members) ?_
        intro name inner found
        rw [lookUp?_mergeMembers (nodup_of_ordered sourceFiled.1),
          Option.or_eq_some_iff] at found
        rcases found with merged | ⟨-, kept⟩
        · obtain ⟨value, given, rfl⟩ := Option.map_eq_some_iff.mp merged
          rw [laidOver_eq]
          have member := eq_some_of_present? given
          exact induction name value member
            (filed_member_or_null targetFiled name) (sourceFiled.member member)
        · exact targetFiled.member kept
      · rw [mergeOver_of_target_not_isObject plain]
        exact sourceFiled

/-- Members that already hold what the source gives are not changed by it. -/
theorem mergeMembers_eq_self {merged members : List (String × Json)}
    (ordered : Ordered merged) (distinct : (members.map (·.1)).Nodup)
    (settled : ∀ name value, present? (lookUp? name members) = some value →
      ∃ held, lookUp? name merged = some held ∧ mergeOver held value = held) :
    mergeMembers merged members = merged := by
  apply eq_of_lookUp?_eq (mergeMembers_ordered ordered members) ordered
  intro name
  rw [lookUp?_mergeMembers distinct]
  cases given : present? (lookUp? name members) with
  | none => rfl
  | some value =>
      obtain ⟨held, found, same⟩ := settled name value given
      simp [found, laidOver, same]

theorem mergeOver_mergeOver {target source : Json}
    (targetFiled : target.Filed) (sourceFiled : source.Filed) :
    mergeOver (mergeOver target source) source = mergeOver target source := by
  induction source using member_induction generalizing target with
  | plain source plain =>
      rw [mergeOver_of_not_isObject plain, mergeOver_of_not_isObject plain]
  | object members induction =>
      have distinct := nodup_of_ordered sourceFiled.1
      -- Whatever lies below it, a member that was merged stays when it is
      -- merged again.
      have settles {name : String} {value : Json}
          (given : present? (lookUp? name members) = some value)
          (below : Json) (belowFiled : below.Filed) :
          mergeOver (mergeOver below value) value = mergeOver below value := by
        have member := eq_some_of_present? given
        exact induction name value member belowFiled (sourceFiled.member member)
      cases target with
      | null | bool | number | text | array =>
          apply congrArg object
          apply mergeMembers_eq_self sourceFiled.1 distinct
          intro name value given
          refine ⟨value, eq_some_of_present? given, ?_⟩
          simpa only [mergeOver_null] using settles given .null trivial
      | object below =>
          apply congrArg object
          apply mergeMembers_eq_self
            (mergeMembers_ordered targetFiled.1 members) distinct
          intro name value given
          rw [lookUp?_mergeMembers distinct, given]
          refine ⟨_, rfl, ?_⟩
          rw [laidOver_eq]
          apply settles given
          cases found : lookUp? name below with
          | none => trivial
          | some held => exact targetFiled.member found

/-- The source merged over the target. -/
def FiledValue.mergedWith (target source : FiledValue) : FiledValue :=
  ⟨mergeOver target.value source.value,
    mergeOver_filed target.filed source.filed⟩

/-- A merge decides path by path.  The source decides where it gives a value
that is neither null nor an object; the target decides where the source has
null or nothing at the end of the path or before it; and the same source merged
once more changes nothing. -/
theorem merge_decides_by_path (target source : FiledValue) :
    (∀ path held, source.value.at? path = some held → held ≠ .null →
      held.isObject = false →
      (target.mergedWith source).value.at? path = some held) ∧
    (∀ path shorter held, target.value.at? path = some held →
      source.value.isObject = true → shorter <+: path →
      (∀ before, before <+: shorter → before ≠ shorter →
        ∃ members, source.value.at? before = some (.object members)) →
      (source.value.at? shorter = none ∨
        source.value.at? shorter = some .null) →
      (target.mergedWith source).value.at? path = some held) ∧
    (target.mergedWith source).mergedWith source =
      target.mergedWith source := by
  refine ⟨?_, ?_, ?_⟩
  · intro path held given present plain
    exact at?_mergeOver_of_given source.filed given present plain
  · intro path shorter held below isObject onTheWay objects withheld
    exact at?_mergeOver_of_withheld source.filed isObject below onTheWay objects
      withheld
  · exact FiledValue.ext (mergeOver_mergeOver target.filed source.filed)

/-- A source with null at one path and a number at another. -/
theorem merge_decides_by_path_of_null :
    let target := FiledValue.ofJson (.object
      [("list", .array [.natural 1]), ("nested", .object
        [("x", .object [("deep", .null)]), ("y", .natural 2)])])
    let source := FiledValue.ofJson (.object
      [("nested", .object [("x", .null), ("y", .natural 3)])])
    let merged := target.mergedWith source
    merged.value.at? ["nested", "y"] = some (.natural 3) ∧
      merged.value.at? ["nested", "x", "deep"] = some .null ∧
      merged.mergedWith source = merged := by
  intro target source merged
  obtain ⟨given, withheld, again⟩ := merge_decides_by_path target source
  refine ⟨given _ _ rfl (by simp [Json.natural]) rfl, ?_, again⟩
  refine withheld ["nested", "x", "deep"] ["nested", "x"] .null rfl rfl
    ⟨["deep"], rfl⟩ ?_ (.inr rfl)
  intro before inside differs
  rcases List.prefix_cons_iff.mp inside with rfl | ⟨rest, rfl, further⟩
  · exact ⟨_, rfl⟩
  · rcases List.prefix_cons_iff.mp further with rfl | ⟨last, rfl, ended⟩
    · exact ⟨_, rfl⟩
    · cases List.prefix_nil.mp ended
      exact (differs rfl).elim

end WorkspaceStartup.Json
