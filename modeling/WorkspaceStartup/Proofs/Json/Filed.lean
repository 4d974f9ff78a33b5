import WorkspaceStartup.Proofs.Json.Document

/-!
# Values filed by name

A value is filed if the members of each of its objects stand in the order of
their names, so that no name comes twice.  Sorting files a value and leaves a
filed one as it is.  Whatever is parsed is filed, and if it is free of real
numbers it is what its own text is parsed as.
-/

namespace WorkspaceStartup

namespace Json

mutual

/-- The members of every object stand in the order of their names. -/
def Filed : Json → Prop
  | .null | .bool _ | .number _ | .text _ => True
  | .array items => FiledItems items
  | .object members => Ordered members ∧ FiledMembers members

def FiledItems : List Json → Prop
  | [] => True
  | item :: items => item.Filed ∧ FiledItems items

def FiledMembers : List (String × Json) → Prop
  | [] => True
  | (_, value) :: members => value.Filed ∧ FiledMembers members

end

theorem filedMembers_iff {members : List (String × Json)} :
    FiledMembers members ↔ ∀ member ∈ members, member.2.Filed := by
  induction members with
  | nil => simp [FiledMembers]
  | cons member members induction => simp [FiledMembers, induction]

theorem Filed.member {value inner : Json} {name : String}
    (filed : value.Filed) (found : value.member? name = some inner) :
    inner.Filed := by
  cases value with
  | null | bool | number | text | array => cases found
  | object members =>
      exact filedMembers_iff.mp filed.2 (name, inner)
        (mem_of_lookUp?_eq_some found)

mutual

theorem sorted_filed : (value : Json) → value.sorted.Filed
  | .null | .bool _ | .number _ | .text _ => trivial
  | .array items => sortedItems_filed items
  | .object members => by
      refine ⟨fileEntries_ordered _, filedMembers_iff.mpr ?_⟩
      intro member inFiled
      exact filedMembers_iff.mp (sortedMembers_filed members) member
        (mem_of_mem_fileEntries inFiled)

theorem sortedItems_filed : (items : List Json) → FiledItems (sortedItems items)
  | [] => trivial
  | item :: items => ⟨sorted_filed item, sortedItems_filed items⟩

theorem sortedMembers_filed :
    (members : List (String × Json)) → FiledMembers (sortedMembers members)
  | [] => trivial
  | (_, value) :: members => ⟨sorted_filed value, sortedMembers_filed members⟩

end

mutual

theorem sorted_of_filed : (value : Json) → value.Filed → value.sorted = value
  | .null, _ | .bool _, _ | .number _, _ | .text _, _ => rfl
  | .array items, filed => congrArg array (sortedItems_of_filed items filed)
  | .object members, ⟨ordered, filed⟩ => by
      rw [sorted, sortedMembers_of_filed members filed, Json.filed,
        fileEntries_of_ordered ordered]

theorem sortedItems_of_filed :
    (items : List Json) → FiledItems items → sortedItems items = items
  | [], _ => rfl
  | item :: items, ⟨first, others⟩ => by
      rw [sortedItems, sorted_of_filed item first,
        sortedItems_of_filed items others]

theorem sortedMembers_of_filed :
    (members : List (String × Json)) → FiledMembers members →
      sortedMembers members = members
  | [], _ => rfl
  | (name, value) :: members, ⟨first, others⟩ => by
      rw [sortedMembers, sorted_of_filed value first,
        sortedMembers_of_filed members others]

end

/-- Members in order make a filed object if all that is found there is filed. -/
theorem filed_object {members : List (String × Json)} (ordered : Ordered members)
    (found : ∀ name inner, lookUp? name members = some inner → inner.Filed) :
    (object members).Filed := by
  refine ⟨ordered, filedMembers_iff.mpr ?_⟩
  intro (name, inner) member
  have distinct := nodup_of_ordered ordered
  exact found name inner ((lookUp?_eq_some_iff_of_nodup distinct).mpr member)

theorem depthMembers_le_iff {members : List (String × Json)} {room : Nat} :
    depthMembers members ≤ room ↔
      ∀ member ∈ members, member.2.depth ≤ room := by
  induction members with
  | nil => simp [depthMembers]
  | cons member members induction =>
      rw [depthMembers, Nat.max_le, induction, List.forall_mem_cons]

mutual

/-- Sorting may drop members, but it adds no depth. -/
theorem depth_sorted_le : (value : Json) → value.sorted.depth ≤ value.depth
  | .null | .bool _ | .number _ | .text _ => Nat.le_refl 0
  | .array items => Nat.succ_le_succ (depthItems_sortedItems_le items)
  | .object members => by
      apply Nat.succ_le_succ
      rw [depthMembers_le_iff]
      intro member inFiled
      exact depthMembers_le_iff.mp (depthMembers_sortedMembers_le members)
        member (mem_of_mem_fileEntries inFiled)

theorem depthItems_sortedItems_le :
    (items : List Json) → depthItems (sortedItems items) ≤ depthItems items
  | [] => Nat.le_refl 0
  | item :: items =>
      Nat.max_le.mpr
        ⟨Nat.le_trans (depth_sorted_le item) (Nat.le_max_left ..),
          Nat.le_trans (depthItems_sortedItems_le items) (Nat.le_max_right ..)⟩

theorem depthMembers_sortedMembers_le :
    (members : List (String × Json)) →
      depthMembers (sortedMembers members) ≤ depthMembers members
  | [] => Nat.le_refl 0
  | (_, value) :: members =>
      Nat.max_le.mpr
        ⟨Nat.le_trans (depth_sorted_le value) (Nat.le_max_left ..),
          Nat.le_trans (depthMembers_sortedMembers_le members)
            (Nat.le_max_right ..)⟩

end

/-! ## Parsed values -/

theorem parse?_eq_some_iff {text : String} {value : Json} :
    parse? text = some value ↔
      ∃ document, Spelled text document ∧
        document.depth ≤ Draft.depthLimit ∧ document.sorted = value := by
  rw [← parse_eq_ok_iff, parse?]
  cases parse text <;> simp [Except.toOption]

theorem filed_of_parse? {text : String} {value : Json}
    (parsed : parse? text = some value) : value.Filed := by
  obtain ⟨document, -, -, rfl⟩ := parse?_eq_some_iff.mp parsed
  exact sorted_filed document

/-- A parsed value is what its own text is parsed as. -/
theorem parse?_print_of_parse? {text : String} {value : Json}
    (parsed : parse? text = some value) (whole : value.Whole) :
    parse? value.print = some value := by
  have filed := filed_of_parse? parsed
  obtain ⟨document, -, shallow, rfl⟩ := parse?_eq_some_iff.mp parsed
  rw [parse?_print whole (Nat.le_trans (depth_sorted_le document) shallow),
    sorted_of_filed _ filed]

/-! ## Values that carry their order -/

/-- A value whose objects have their members in the order of their names. -/
@[ext] structure FiledValue where
  value : Json
  filed : value.Filed

/-- The value with its members filed. -/
def FiledValue.ofJson (value : Json) : FiledValue :=
  ⟨value.sorted, value.sorted_filed⟩

end Json

end WorkspaceStartup
