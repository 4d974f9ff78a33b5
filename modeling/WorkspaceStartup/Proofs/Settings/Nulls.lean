import WorkspaceStartup.Proofs.Settings.Path

/-!
# Null members of a source

A merge passes over a null member of the source if the target has the object in
which it stands.  Where the target lacks this object, or has something else in
its place, the object of the source is taken as it is, with its null members.  So
a source and the same source without its null members give the same merge if and
only if the target has every object in which one of them stands, and in any case
the two merges differ in null members alone.
-/

namespace WorkspaceStartup.Json

variable {target source value inner : Json} {name : String}
  {members below : List (String × Json)} {path : List String}

mutual

/-- A value without the null members of its objects; arrays stay as they are. -/
def withoutNulls : Json → Json
  | .object members => .object (membersWithoutNulls members)
  | other => other

def membersWithoutNulls : List (String × Json) → List (String × Json)
  | [] => []
  | (_, .null) :: members => membersWithoutNulls members
  | (name, value) :: members =>
      (name, value.withoutNulls) :: membersWithoutNulls members

end

theorem withoutNulls_of_not_isObject (plain : value.isObject = false) :
    value.withoutNulls = value := by
  cases value with
  | object => cases plain
  | null | bool | number | text | array => rfl

theorem withoutNulls_ne_null (present : value ≠ .null) :
    value.withoutNulls ≠ .null := by
  cases value with
  | null => exact (present rfl).elim
  | bool | number | text | array | object => nofun

theorem membersWithoutNulls_cons (present : value ≠ .null) (name : String)
    (members : List (String × Json)) :
    membersWithoutNulls ((name, value) :: members) =
      (name, value.withoutNulls) :: membersWithoutNulls members := by
  cases value with
  | null => exact (present rfl).elim
  | bool | number | text | array | object => rfl

/-- The names of what stays are names of members. -/
theorem names_membersWithoutNulls_sublist (members : List (String × Json)) :
    ((membersWithoutNulls members).map (·.1)).Sublist (members.map (·.1)) := by
  induction members with
  | nil => exact List.Sublist.refl _
  | cons member members induction =>
      obtain ⟨name, value⟩ := member
      by_cases absent : value = .null
      · subst absent
        exact induction.cons name
      · rw [membersWithoutNulls_cons absent]
        exact induction.cons_cons name

theorem membersWithoutNulls_ordered (ordered : Ordered members) :
    Ordered (membersWithoutNulls members) :=
  List.pairwise_map.mp ((List.pairwise_map.mpr ordered).sublist
    (names_membersWithoutNulls_sublist members))

theorem lookUp?_membersWithoutNulls (distinct : (members.map (·.1)).Nodup)
    (name : String) :
    lookUp? name (membersWithoutNulls members) =
      (present? (lookUp? name members)).map withoutNulls := by
  induction members with
  | nil => rfl
  | cons member members induction =>
      obtain ⟨label, value⟩ := member
      obtain ⟨unlisted, others⟩ := List.nodup_cons.mp distinct
      by_cases absent : value = .null
      · subst absent
        rw [membersWithoutNulls, induction others, lookUp?_cons]
        split
        · next same =>
            cases same
            rw [lookUp?_eq_none_iff.mpr unlisted]
            rfl
        · rfl
      · rw [membersWithoutNulls_cons absent, lookUp?_cons, lookUp?_cons,
          induction others]
        split
        · rw [present?_some absent]
          rfl
        · rfl

/-- Without its null members a filed value is still filed. -/
theorem withoutNulls_filed (filed : source.Filed) :
    source.withoutNulls.Filed := by
  induction source using member_induction with
  | plain source plain =>
      rw [withoutNulls_of_not_isObject plain]
      exact filed
  | object members induction =>
      have distinct := nodup_of_ordered filed.1
      refine filed_object (membersWithoutNulls_ordered filed.1) ?_
      intro name inner found
      rw [lookUp?_membersWithoutNulls distinct] at found
      obtain ⟨value, given, rfl⟩ := Option.map_eq_some_iff.mp found
      have member := eq_some_of_present? given
      exact induction name value member (filed.member member)

theorem present?_map_withoutNulls (found : Option Json) :
    present? ((present? found).map withoutNulls) =
      (present? found).map withoutNulls := by
  cases found with
  | none => rfl
  | some value =>
      by_cases absent : value = .null
      · subst absent
        rfl
      · rw [present?_some absent, Option.map_some,
          present?_some (withoutNulls_ne_null absent)]

/-- What is laid over something is not null if it was not null before. -/
theorem laidOver_ne_null {below : Option Json} (present : value ≠ .null) :
    laidOver below value ≠ .null := by
  rw [laidOver_eq]
  cases value with
  | null => exact (present rfl).elim
  | object => cases below.getD .null <;> nofun
  | bool | number | text | array => nofun

/-- Objects in the order of their names are told apart by their members. -/
theorem object_inj_of_ordered {left right : List (String × Json)}
    (leftOrdered : Ordered left) (rightOrdered : Ordered right) :
    object left = object right ↔
      ∀ name, lookUp? name left = lookUp? name right := by
  constructor
  · intro same name
    cases same
    rfl
  · intro same
    exact congrArg object (eq_of_lookUp?_eq leftOrdered rightOrdered same)

/-! ## Where a merge passes over null -/

/-- Where a null member of the source stands, the target has an object too. -/
def HasObjectsOfNulls (target source : Json) : Prop :=
  ∀ path name, source.at? (path ++ [name]) = some .null →
    ∃ members, target.at? path = some (.object members)

/-- Only inside an object can anything stand under a name. -/
theorem ne_null_of_at?_concat
    (found : source.at? (path ++ [name]) = some value) : source ≠ .null := by
  rintro rfl
  cases path with
  | nil => cases found
  | cons => cases found

/-- The target has the objects of all nulls if it has the outermost, or no null
stands there, and each of its members has those of the source's member. -/
theorem hasObjectsOfNulls_iff :
    HasObjectsOfNulls target source ↔
      (target.isObject = true ∨ ∀ name, source.member? name ≠ some .null) ∧
      ∀ name inner, present? (source.member? name) = some inner →
        HasObjectsOfNulls ((target.member? name).getD .null) inner := by
  constructor
  · intro has
    constructor
    · obtain ⟨held, rfl⟩ | plain := exists_members_or_not_isObject target
      · exact .inl rfl
      · refine .inr fun name isNull => ?_
        obtain ⟨members, itself⟩ := has [] name
          (at?_cons_eq_some_iff.mpr ⟨_, isNull, rfl⟩)
        cases itself
        cases plain
    · intro name inner present path last isNull
      have found := eq_some_of_present? present
      obtain ⟨members, further⟩ := has (name :: path) last
        ((at?_cons_of_member found).trans isNull)
      obtain ⟨held, below, further⟩ := at?_cons_eq_some_iff.mp further
      rw [below]
      exact ⟨members, further⟩
  · rintro ⟨outermost, further⟩ path last isNull
    cases path with
    | nil =>
        obtain ⟨inner, found, itself⟩ := at?_cons_eq_some_iff.mp isNull
        cases itself
        rcases outermost with isObject | free
        · obtain ⟨members, rfl⟩ | plain := exists_members_or_not_isObject target
          · exact ⟨members, rfl⟩
          · cases isObject.symm.trans plain
        · exact (free last found).elim
    | cons name path =>
        obtain ⟨inner, found, isNull⟩ := at?_cons_eq_some_iff.mp isNull
        have present : present? (source.member? name) = some inner :=
          found ▸ present?_some (ne_null_of_at?_concat isNull)
        obtain ⟨members, reached⟩ := further name inner present path last isNull
        refine ⟨members, at?_cons_eq_some_iff.mpr ?_⟩
        cases below : target.member? name with
        | none =>
            rw [below] at reached
            cases path with
            | nil => cases reached
            | cons => cases reached
        | some held =>
            rw [below] at reached
            exact ⟨held, rfl, reached⟩

theorem member?_of_not_isObject (plain : value.isObject = false)
    (name : String) : value.member? name = none := by
  cases value with
  | object => cases plain
  | null | bool | number | text | array => rfl

theorem hasObjectsOfNulls_of_not_isObject (plain : source.isObject = false) :
    HasObjectsOfNulls target source := by
  rw [hasObjectsOfNulls_iff]
  simp [member?_of_not_isObject plain]

/-- Members without nulls, laid over others, under one name. -/
theorem lookUp?_mergeMembers_withoutNulls
    (distinct : (members.map (·.1)).Nodup) (ordered : Ordered members)
    (below : List (String × Json)) (name : String) :
    lookUp? name (mergeMembers below (membersWithoutNulls members)) =
      ((present? (lookUp? name members)).map fun value =>
        laidOver (lookUp? name below) value.withoutNulls).or
          (lookUp? name below) := by
  have stillDistinct := nodup_of_ordered (membersWithoutNulls_ordered ordered)
  rw [lookUp?_mergeMembers stillDistinct, lookUp?_membersWithoutNulls distinct,
    present?_map_withoutNulls, Option.map_map]
  rfl

/-- One level of a merge loses nothing with the nulls of its source if the nulls
of this level are passed over and the merges of the members lose nothing. -/
theorem mergeOver_withoutNulls_eq_iff_members (targetFiled : target.Filed)
    (sourceFiled : (object members).Filed) :
    mergeOver target (object members).withoutNulls =
        mergeOver target (object members) ↔
      (target.isObject = true ∨
        ∀ name, (object members).member? name ≠ some .null) ∧
      ∀ name inner, present? ((object members).member? name) = some inner →
        mergeOver ((target.member? name).getD .null) inner.withoutNulls =
          mergeOver ((target.member? name).getD .null) inner := by
  obtain ⟨ordered, -⟩ := sourceFiled
  have distinct := nodup_of_ordered ordered
  obtain ⟨below, rfl⟩ | plain := exists_members_or_not_isObject target
  · rw [withoutNulls, mergeOver, mergeOver, object_inj_of_ordered
      (mergeMembers_ordered targetFiled.1 _)
      (mergeMembers_ordered targetFiled.1 _)]
    simp only [isObject, true_or, true_and, member?_object,
      lookUp?_mergeMembers_withoutNulls distinct ordered,
      lookUp?_mergeMembers distinct]
    refine forall_congr' fun name => ?_
    cases present? (lookUp? name members) <;> simp [laidOver_eq]
  · -- Nothing is below, so the source is taken as it is.
    simp only [mergeOver_of_target_not_isObject plain,
      member?_of_not_isObject plain, plain, Option.getD_none, mergeOver_null,
      Bool.false_eq_true, false_or, member?_object]
    rw [withoutNulls, object_inj_of_ordered
      (membersWithoutNulls_ordered ordered) ordered, ← forall_and]
    refine forall_congr' fun name => ?_
    rw [lookUp?_membersWithoutNulls distinct]
    cases lookUp? name members with
    | none => simp
    | some value =>
        by_cases absent : value = .null
        · subst absent
          simp [present?]
        · simp [present?_some absent, absent]

/-- The null members of a source are of no account in a merge if and only if the
target has the objects in which they stand. -/
theorem mergeOver_withoutNulls_eq_iff (targetFiled : target.Filed)
    (sourceFiled : source.Filed) :
    mergeOver target source.withoutNulls = mergeOver target source ↔
      HasObjectsOfNulls target source := by
  induction source using member_induction generalizing target with
  | plain source plain =>
      rw [withoutNulls_of_not_isObject plain]
      exact iff_of_true rfl (hasObjectsOfNulls_of_not_isObject plain)
  | object members induction =>
      rw [mergeOver_withoutNulls_eq_iff_members targetFiled sourceFiled,
        hasObjectsOfNulls_iff]
      refine and_congr_right' (forall_congr' fun name =>
        forall_congr' fun inner => imp_congr_right fun given => ?_)
      have found := eq_some_of_present? given
      exact induction name inner found (filed_member_or_null targetFiled name)
        (sourceFiled.member found)

/-! ## What a merge has in place of null -/

theorem ne_null_of_present? {found : Option Json}
    (given : present? found = some value) : value ≠ .null := by
  rintro rfl
  cases eq_some_of_present? given
  cases given

/-- With the nulls of the source or without them, a merge gives the same but for
null members. -/
theorem withoutNulls_mergeOver (targetFiled : target.Filed)
    (sourceFiled : source.Filed) :
    (mergeOver target source).withoutNulls =
      (mergeOver target source.withoutNulls).withoutNulls := by
  induction source using member_induction generalizing target with
  | plain source plain => rw [withoutNulls_of_not_isObject plain]
  | object members induction =>
      have ordered := sourceFiled.1
      have distinct := nodup_of_ordered ordered
      have stillOrdered := membersWithoutNulls_ordered ordered
      -- What is laid over something there is as claimed, whatever it lies over.
      have settles {name : String} {value : Json}
          (given : present? (lookUp? name members) = some value)
          (below : Json) (belowFiled : below.Filed) :
          (mergeOver below value).withoutNulls =
            (mergeOver below value.withoutNulls).withoutNulls := by
        have member := eq_some_of_present? given
        exact induction name value member belowFiled (sourceFiled.member member)
      obtain ⟨below, rfl⟩ | plain := exists_members_or_not_isObject target
      · have merged := mergeMembers_ordered targetFiled.1
        rw [withoutNulls, mergeOver, mergeOver, withoutNulls, withoutNulls,
          object_inj_of_ordered (membersWithoutNulls_ordered (merged _))
            (membersWithoutNulls_ordered (merged _))]
        intro name
        rw [lookUp?_membersWithoutNulls (nodup_of_ordered (merged _)),
          lookUp?_membersWithoutNulls (nodup_of_ordered (merged _)),
          lookUp?_mergeMembers_withoutNulls distinct ordered,
          lookUp?_mergeMembers distinct]
        cases given : present? (lookUp? name members) with
        | none => rfl
        | some value =>
            have present := ne_null_of_present? given
            rw [Option.map_some, Option.map_some, Option.some_or, Option.some_or,
              present?_some (laidOver_ne_null present),
              present?_some (laidOver_ne_null (withoutNulls_ne_null present)),
              laidOver_eq, laidOver_eq]
            exact congrArg some
              (settles given _ (filed_member_or_null targetFiled name))
      · rw [mergeOver_of_target_not_isObject plain,
          mergeOver_of_target_not_isObject plain, withoutNulls, withoutNulls,
          object_inj_of_ordered stillOrdered
            (membersWithoutNulls_ordered stillOrdered)]
        intro name
        rw [lookUp?_membersWithoutNulls (nodup_of_ordered stillOrdered),
          lookUp?_membersWithoutNulls distinct, present?_map_withoutNulls]
        cases given : present? (lookUp? name members) with
        | none => rfl
        | some value =>
            simpa [mergeOver_null] using settles given .null trivial

/-- In an object that both have, a null of the source leaves the target's member
or its lack alone. -/
theorem at?_mergeOver_of_null (sourceFiled : source.Filed)
    (isNull : source.at? (path ++ [name]) = some .null)
    (enclosing : target.at? path = some (.object below)) :
    (mergeOver target source).at? (path ++ [name]) =
      target.at? (path ++ [name]) := by
  induction path generalizing target source with
  | nil =>
      cases enclosing
      obtain ⟨inner, found, itself⟩ := at?_cons_eq_some_iff.mp isNull
      cases itself
      obtain ⟨members, rfl⟩ := exists_members_of_member? found
      have same : (mergeOver (.object below) (.object members)).member? name =
          (object below).member? name := by
        rw [member?_object] at found
        rw [mergeOver, member?_object,
          lookUp?_mergeMembers (nodup_of_ordered sourceFiled.1), found]
        rfl
      exact congrArg (Option.bind · fun inner => inner.at? []) same
  | cons first path induction =>
      obtain ⟨inner, found, isNull⟩ := at?_cons_eq_some_iff.mp isNull
      obtain ⟨held, member, enclosing⟩ := at?_cons_eq_some_iff.mp enclosing
      have merged : (mergeOver target source).member? first =
          some (laidOver (target.member? first) inner) :=
        member?_mergeOver_of_present sourceFiled found
          (ne_null_of_at?_concat isNull)
      rw [member] at merged
      rw [List.cons_append, at?_cons_of_member merged,
        at?_cons_of_member member]
      exact induction (sourceFiled.member found) isNull enclosing

/-- Where the target has no such object, a null of the source is taken over. -/
theorem at?_mergeOver_of_null_outside (sourceFiled : source.Filed)
    (isNull : source.at? (path ++ [name]) = some .null)
    (outside : ∀ members, target.at? path ≠ some (.object members)) :
    (mergeOver target source).at? (path ++ [name]) = some .null := by
  induction path generalizing target source with
  | nil =>
      obtain ⟨members, rfl⟩ | plain := exists_members_or_not_isObject target
      · exact (outside members rfl).elim
      · rwa [mergeOver_of_target_not_isObject plain]
  | cons first path induction =>
      obtain ⟨inner, found, isNull⟩ := at?_cons_eq_some_iff.mp isNull
      have merged : (mergeOver target source).member? first =
          some (laidOver (target.member? first) inner) :=
        member?_mergeOver_of_present sourceFiled found
          (ne_null_of_at?_concat isNull)
      rw [List.cons_append, at?_cons_of_member merged]
      cases member : target.member? first with
      | none => exact isNull
      | some held =>
          refine induction (sourceFiled.member found) isNull ?_
          intro members enclosing
          exact outside members ((at?_cons_of_member member).trans enclosing)

/-- The value without the null members of its objects. -/
def FiledValue.withoutNulls (source : FiledValue) : FiledValue :=
  ⟨source.value.withoutNulls, withoutNulls_filed source.filed⟩

/-- A merge passes over the nulls of its source in the objects that the target
has as well, and over no others.  So it loses nothing with the null members of
the source if and only if the target has the objects in which they all stand.
What it gives with them differs in null members alone. -/
theorem nulls_are_passed_over_in_shared_objects (target source : FiledValue) :
    (target.mergedWith source = target.mergedWith source.withoutNulls ↔
      HasObjectsOfNulls target.value source.value) ∧
    (∀ path name, source.value.at? (path ++ [name]) = some .null →
      (∀ members, target.value.at? path = some (.object members) →
        (target.mergedWith source).value.at? (path ++ [name]) =
          target.value.at? (path ++ [name])) ∧
      ((∀ members, target.value.at? path ≠ some (.object members)) →
        (target.mergedWith source).value.at? (path ++ [name]) = some .null)) ∧
    (target.mergedWith source).withoutNulls =
      (target.mergedWith source.withoutNulls).withoutNulls := by
  refine ⟨?_, ?_, ?_⟩
  · rw [eq_comm, FiledValue.ext_iff]
    exact mergeOver_withoutNulls_eq_iff target.filed source.filed
  · intro path name isNull
    constructor
    · intro members enclosing
      exact at?_mergeOver_of_null source.filed isNull enclosing
    · exact at?_mergeOver_of_null_outside source.filed isNull
  · exact FiledValue.ext (withoutNulls_mergeOver target.filed source.filed)

/-- A source with one null in an object that the target has, and one in an object
in whose place the target has a number. -/
theorem nulls_are_passed_over_in_shared_objects_of_two :
    let target := FiledValue.ofJson (.object
      [("logging", .object [("level", .text "info")]), ("other", .natural 7)])
    let source := FiledValue.ofJson (.object
      [("logging", .object [("level", .null)]),
        ("other", .object [("inner", .null)])])
    let merged := target.mergedWith source
    merged.value.at? ["logging", "level"] =
        target.value.at? ["logging", "level"] ∧
      merged.value.at? ["other", "inner"] = some .null ∧
      merged ≠ target.mergedWith source.withoutNulls := by
  intro target source merged
  obtain ⟨same, places, -⟩ :=
    nulls_are_passed_over_in_shared_objects target source
  have inside := (places ["logging"] "level" rfl).1 _ rfl
  have outside := (places ["other"] "inner" rfl).2 nofun
  refine ⟨inside, outside, fun equal => ?_⟩
  obtain ⟨members, enclosing⟩ := same.mp equal ["other"] "inner" rfl
  cases enclosing

/-- A null in an object that the target lacks is taken over with the object. -/
theorem null_is_taken_over_with_its_object :
    let target := FiledValue.ofJson (.object [])
    let source := FiledValue.ofJson (.object [("a", .object [("b", .null)])])
    target.value = .object [] ∧
      source.value = .object [("a", .object [("b", .null)])] ∧
      source.withoutNulls.value = .object [("a", .object [])] ∧
      (target.mergedWith source).value =
        .object [("a", .object [("b", .null)])] ∧
      (target.mergedWith source.withoutNulls).value =
        .object [("a", .object [])] ∧
      target.mergedWith source ≠ target.mergedWith source.withoutNulls := by
  intro target source
  exact ⟨rfl, rfl, rfl, rfl, rfl, nofun⟩

end WorkspaceStartup.Json
