import WorkspaceStartup.Dictionary

/-!
# Looking up names in dictionaries

What a look-up finds after an entry was filed or dropped.  The names of a
dictionary are exactly those whose look-up succeeds.
-/

namespace WorkspaceStartup

theorem lookUp?_fileEntry (name other : String) (value : α)
    (entries : List (String × α)) :
    lookUp? other (fileEntry name value entries) =
      if other = name then some value else lookUp? other entries := by
  induction entries with
  | nil =>
      by_cases same : other = name
      · simp [fileEntry, lookUp?, same]
      · simp [fileEntry, lookUp?, same, Ne.symm same]
  | cons first rest induction =>
      unfold fileEntry
      split
      · by_cases same : other = name
        · simp [same, lookUp?]
        · simp [same, Ne.symm same, lookUp?]
      · split
        · next sameFirst =>
            by_cases same : other = name
            · simp [same, lookUp?]
            · have differsFirst : first.1 ≠ other :=
                fun equality => same (equality.symm.trans sameFirst.symm)
              simp [same, Ne.symm same, differsFirst, lookUp?]
        · next differs =>
            by_cases isFirst : first.1 = other
            · have different : other ≠ name :=
                fun equality => differs (isFirst.trans equality).symm
              simp [isFirst, different, lookUp?]
            · simpa [isFirst, lookUp?] using induction

theorem lookUp?_dropEntry (name other : String) (entries : List (String × α)) :
    lookUp? other (dropEntry name entries) =
      if other = name then none else lookUp? other entries := by
  induction entries with
  | nil => simp [dropEntry, lookUp?]
  | cons first rest induction =>
      unfold dropEntry lookUp? at induction ⊢
      by_cases dropped : first.1 = name
      · by_cases same : other = name
        · simp [same]
        · simpa [dropped, same, Ne.symm same] using induction
      · by_cases isFirst : first.1 = other
        · have different : other ≠ name :=
            fun equality => dropped (isFirst.trans equality)
          simp [isFirst, different]
        · simpa [dropped, isFirst] using induction

@[simp] theorem lookUp?_nil (name : String) :
    lookUp? name ([] : List (String × α)) = none :=
  rfl

@[simp] theorem lookUp?_cons (name : String) (entry : String × α)
    (entries : List (String × α)) :
    lookUp? name (entry :: entries) =
      if entry.1 = name then some entry.2 else lookUp? name entries := by
  by_cases same : entry.1 = name <;> simp [lookUp?, same]

theorem lookUp?_append (name : String) (earlier later : List (String × α)) :
    lookUp? name (earlier ++ later) =
      (lookUp? name earlier).or (lookUp? name later) := by
  simp only [lookUp?, List.find?_append]
  cases earlier.find? fun entry => entry.1 == name <;> rfl

theorem lookUp?_eq_none_iff {name : String} {entries : List (String × α)} :
    lookUp? name entries = none ↔ name ∉ entries.map (·.1) := by
  simp only [lookUp?, Option.map_eq_none_iff, List.find?_eq_none, beq_iff_eq,
    List.mem_map, not_exists, not_and]

theorem mem_of_lookUp?_eq_some {name : String} {value : α}
    {entries : List (String × α)} (found : lookUp? name entries = some value) :
    (name, value) ∈ entries := by
  obtain ⟨entry, first, rfl⟩ := Option.map_eq_some_iff.mp found
  have named : entry.1 = name := by simpa using List.find?_some first
  subst named
  exact List.mem_of_find?_eq_some first

theorem fileEntry_of_last {name : String} {value : α}
    {entries : List (String × α)} (last : ∀ entry ∈ entries, entry.1 < name) :
    fileEntry name value entries = entries ++ [(name, value)] := by
  induction entries with
  | nil => rfl
  | cons entry entries induction =>
      have before := last entry List.mem_cons_self
      have others := induction fun other member =>
        last other (List.mem_cons_of_mem entry member)
      have notBelow : ¬ name < entry.1 := fun below =>
        String.lt_irrefl name (String.lt_trans below before)
      have differs : name ≠ entry.1 := fun same =>
        notBelow (same ▸ before)
      simp [fileEntry, notBelow, differs, others]

/-- Entries that are in order are filed as they stand. -/
theorem fileEntries_of_ordered {entries : List (String × α)}
    (ordered : Ordered entries) : fileEntries entries = entries := by
  have keeps (filed rest : List (String × α)) (ordered : Ordered (filed ++ rest)) :
      rest.foldl (fun filed entry => fileEntry entry.1 entry.2 filed) filed =
        filed ++ rest := by
    induction rest generalizing filed with
    | nil => simp
    | cons entry rest induction =>
        have last : ∀ other ∈ filed, other.1 < entry.1 := by
          intro other member
          exact (List.pairwise_append.mp ordered).2.2 other member entry
            List.mem_cons_self
        have moved : filed ++ entry :: rest = (filed ++ [entry]) ++ rest := by
          simp
        rw [List.foldl_cons, fileEntry_of_last last, moved]
        exact induction (filed ++ [entry]) (moved ▸ ordered)
  exact keeps [] entries ordered

/-- Of several entries filed under a name the last one is found. -/
theorem lookUp?_fileEntries (name : String) (entries : List (String × α)) :
    lookUp? name (fileEntries entries) = lookUp? name entries.reverse := by
  have files (rest filed : List (String × α)) :
      lookUp? name (rest.foldl
          (fun filed entry => fileEntry entry.1 entry.2 filed) filed) =
        (lookUp? name rest.reverse).or (lookUp? name filed) := by
    induction rest generalizing filed with
    | nil => rfl
    | cons entry rest induction =>
        rw [List.foldl_cons, induction, lookUp?_fileEntry, List.reverse_cons,
          lookUp?_append, Option.or_assoc]
        by_cases same : name = entry.1
        · simp [same, lookUp?]
        · simp [same, Ne.symm same, lookUp?]
  exact (files entries []).trans Option.or_none

theorem mem_of_mem_fileEntries {entries : List (String × α)}
    {entry : String × α} (member : entry ∈ fileEntries entries) :
    entry ∈ entries := by
  have files (rest filed : List (String × α))
      (member : entry ∈ rest.foldl
        (fun filed entry => fileEntry entry.1 entry.2 filed) filed) :
      entry ∈ rest ∨ entry ∈ filed := by
    induction rest generalizing filed with
    | nil => exact .inr member
    | cons first rest induction =>
        rcases induction _ member with inRest | inFiled
        · exact .inl (List.mem_cons_of_mem first inRest)
        · rcases mem_fileEntry inFiled with rfl | earlier
          · exact .inl List.mem_cons_self
          · exact .inr earlier
  rcases files entries [] member with inEntries | inNone
  · exact inEntries
  · cases inNone

/-- Looking up a name in entries whose values were changed. -/
theorem lookUp?_map (name : String) (change : α → β)
    (entries : List (String × α)) :
    lookUp? name (entries.map fun entry => (entry.1, change entry.2)) =
      (lookUp? name entries).map change := by
  induction entries with
  | nil => rfl
  | cons entry entries induction =>
      by_cases same : entry.1 = name
      · simp [same]
      · simpa [same] using induction

/-! ## Entries in order -/

theorem nodup_of_ordered {entries : List (String × α)}
    (ordered : Ordered entries) : (entries.map (·.1)).Nodup := by
  rw [List.Nodup, List.pairwise_map]
  refine ordered.imp ?_
  intro earlier later before same
  rw [same] at before
  exact String.lt_irrefl _ before

/-- Under distinct names every entry is the one found. -/
theorem lookUp?_eq_some_iff_of_nodup {name : String} {value : α}
    {entries : List (String × α)} (distinct : (entries.map (·.1)).Nodup) :
    lookUp? name entries = some value ↔ (name, value) ∈ entries := by
  induction entries with
  | nil => simp
  | cons first rest induction =>
      obtain ⟨differs, distinct⟩ := List.nodup_cons.mp distinct
      rw [lookUp?_cons, List.mem_cons, Prod.ext_iff]
      split
      · next same =>
          subst same
          have notInRest : (first.1, value) ∉ rest := fun member =>
            differs (List.mem_map.mpr ⟨_, member, rfl⟩)
          simp [notInRest, eq_comm]
      · next different =>
          rw [induction distinct]
          simp [Ne.symm different]

theorem ordered_map_iff {entries : List (String × α)} {change : α → β} :
    Ordered (entries.map fun entry => (entry.1, change entry.2)) ↔
      Ordered entries :=
  List.pairwise_map

theorem lookUp?_eq_none_of_below {name : String} {entries : List (String × α)}
    (above : ∀ entry ∈ entries, name < entry.1) : lookUp? name entries = none := by
  rw [lookUp?_eq_none_iff]
  intro member
  obtain ⟨entry, inEntries, rfl⟩ := List.mem_map.mp member
  exact String.lt_irrefl _ (above entry inEntries)

/-- No name is below the first one of entries in order. -/
theorem not_lt_first {name : String} {value : α} {first : String × α}
    {rest : List (String × α)} (ordered : Ordered (first :: rest))
    (found : lookUp? name (first :: rest) = some value) : ¬ name < first.1 := by
  intro below
  have none : lookUp? name (first :: rest) = none := by
    apply lookUp?_eq_none_of_below
    intro entry member
    obtain rfl | later := List.mem_cons.mp member
    · exact below
    · exact String.lt_trans below ((List.pairwise_cons.mp ordered).1 entry later)
  rw [none] at found
  cases found

/-- Entries in order are determined by what is found under each name. -/
theorem eq_of_lookUp?_eq {left right : List (String × α)}
    (leftOrdered : Ordered left) (rightOrdered : Ordered right)
    (same : ∀ name, lookUp? name left = lookUp? name right) : left = right := by
  induction left generalizing right with
  | nil =>
      cases right with
      | nil => rfl
      | cons first rest => simpa using same first.1
  | cons first rest induction =>
      cases right with
      | nil => simpa using same first.1
      | cons other others =>
          have foundFirst : lookUp? first.1 (other :: others) = some first.2 := by
            rw [← same, lookUp?_cons, if_pos rfl]
          have foundOther : lookUp? other.1 (first :: rest) = some other.2 := by
            rw [same, lookUp?_cons, if_pos rfl]
          -- Each first name is found in the other list, so none is below it.
          have sameName : first.1 = other.1 :=
            String.le_antisymm
              (String.not_lt.mp (not_lt_first leftOrdered foundOther))
              (String.not_lt.mp (not_lt_first rightOrdered foundFirst))
          rw [lookUp?_cons, if_pos sameName.symm] at foundFirst
          have sameFirst : first = other :=
            Prod.ext sameName (Option.some.inj foundFirst).symm
          subst sameFirst
          obtain ⟨leftFirst, leftOrdered⟩ := List.pairwise_cons.mp leftOrdered
          obtain ⟨rightFirst, rightOrdered⟩ := List.pairwise_cons.mp rightOrdered
          refine congrArg (first :: ·) (induction leftOrdered rightOrdered ?_)
          intro name
          by_cases isFirst : first.1 = name
          · subst isFirst
            rw [lookUp?_eq_none_of_below leftFirst,
              lookUp?_eq_none_of_below rightFirst]
          · simpa [isFirst] using same name

namespace Dictionary

theorem ofList_entries (dictionary : Dictionary α) :
    ofList dictionary.entries = dictionary :=
  ext (fileEntries_of_ordered dictionary.ordered)

@[simp] theorem get?_insert (dictionary : Dictionary α) (name other : String)
    (value : α) :
    (dictionary.insert name value).get? other =
      if other = name then some value else dictionary.get? other :=
  lookUp?_fileEntry name other value dictionary.entries

@[simp] theorem get?_erase (dictionary : Dictionary α) (name other : String) :
    (dictionary.erase name).get? other =
      if other = name then none else dictionary.get? other :=
  lookUp?_dropEntry name other dictionary.entries

theorem mem_names_iff (dictionary : Dictionary α) (name : String) :
    name ∈ dictionary.names ↔ (dictionary.get? name).isSome = true := by
  simp [names, get?, lookUp?]

end Dictionary

end WorkspaceStartup
