/-!
# Dictionaries

Entries under names in increasing order of the names, no name twice.  Names
are ordered by the code points of their characters.  The order is part of the
type, so two dictionaries with the same look-ups list the same entries.
-/

namespace WorkspaceStartup

/-- Entries in increasing order of their names. -/
def Ordered (entries : List (String × α)) : Prop :=
  entries.Pairwise fun earlier later => earlier.1 < later.1

/-- Files an entry in its place; an entry of that name is replaced. -/
def fileEntry (name : String) (value : α) :
    List (String × α) → List (String × α)
  | [] => [(name, value)]
  | entry :: entries =>
      if name < entry.1 then (name, value) :: entry :: entries
      else if name = entry.1 then (name, value) :: entries
      else entry :: fileEntry name value entries

/-- Files entries one after the other, so the last of a name stays. -/
def fileEntries (entries : List (String × α)) : List (String × α) :=
  entries.foldl (fun filed entry => fileEntry entry.1 entry.2 filed) []

/-- Removes the entries of a name. -/
def dropEntry (name : String) (entries : List (String × α)) : List (String × α) :=
  entries.filter fun entry => entry.1 != name

/-- The value of the first entry under the name. -/
def lookUp? (name : String) (entries : List (String × α)) : Option α :=
  (entries.find? fun entry => entry.1 == name).map (·.2)

theorem mem_fileEntry {name : String} {value : α} {entries : List (String × α)}
    {entry : String × α} (member : entry ∈ fileEntry name value entries) :
    entry = (name, value) ∨ entry ∈ entries := by
  induction entries with
  | nil => simpa [fileEntry] using member
  | cons first rest induction =>
      unfold fileEntry at member
      split at member
      · simpa using member
      · split at member
        · rcases List.mem_cons.1 member with equality | inRest
          · exact .inl equality
          · exact .inr (List.mem_cons_of_mem _ inRest)
        · rcases List.mem_cons.1 member with equality | inRest
          · exact .inr (equality ▸ List.mem_cons_self)
          · rcases induction inRest with equality | inRest
            · exact .inl equality
            · exact .inr (List.mem_cons_of_mem _ inRest)

theorem fileEntry_ordered (name : String) (value : α)
    {entries : List (String × α)} (ordered : Ordered entries) :
    Ordered (fileEntry name value entries) := by
  induction entries with
  | nil => simp [fileEntry, Ordered]
  | cons first rest induction =>
      obtain ⟨firstLeast, restOrdered⟩ := List.pairwise_cons.1 ordered
      unfold fileEntry
      split
      · next below =>
          refine List.pairwise_cons.2 ⟨?_, ordered⟩
          intro entry member
          rcases List.mem_cons.1 member with equality | inRest
          · exact equality ▸ below
          · exact String.lt_trans below (firstLeast entry inRest)
      · next notBelow =>
          split
          · next same =>
              refine List.pairwise_cons.2 ⟨?_, restOrdered⟩
              intro entry member
              exact same ▸ firstLeast entry member
          · next different =>
              refine List.pairwise_cons.2 ⟨?_, induction restOrdered⟩
              intro entry member
              rcases mem_fileEntry member with equality | inRest
              · subst equality
                have atMost : first.1 ≤ name := String.not_lt.1 notBelow
                exact String.not_le.1 fun atLeast =>
                  different (String.le_antisymm atLeast atMost)
              · exact firstLeast entry inRest

theorem fileEntries_ordered (entries : List (String × α)) :
    Ordered (fileEntries entries) := by
  have keeps (entries filed : List (String × α)) (ordered : Ordered filed) :
      Ordered (entries.foldl
        (fun filed entry => fileEntry entry.1 entry.2 filed) filed) := by
    induction entries generalizing filed with
    | nil => exact ordered
    | cons entry entries induction =>
        exact induction _ (fileEntry_ordered entry.1 entry.2 ordered)
  exact keeps entries [] List.Pairwise.nil

theorem dropEntry_ordered (name : String) {entries : List (String × α)}
    (ordered : Ordered entries) : Ordered (dropEntry name entries) :=
  List.Pairwise.filter _ ordered

/-- Entries with distinct names, listed in the order of the names. -/
structure Dictionary (α : Type) where
  entries : List (String × α)
  ordered : Ordered entries

namespace Dictionary

def empty : Dictionary α := ⟨[], List.Pairwise.nil⟩

instance : Inhabited (Dictionary α) := ⟨empty⟩

instance : EmptyCollection (Dictionary α) := ⟨empty⟩

/-- The dictionary of a list of entries, where the last of a name stays. -/
def ofList (entries : List (String × α)) : Dictionary α :=
  ⟨fileEntries entries, fileEntries_ordered entries⟩

def get? (dictionary : Dictionary α) (name : String) : Option α :=
  lookUp? name dictionary.entries

def insert (dictionary : Dictionary α) (name : String) (value : α) :
    Dictionary α :=
  ⟨fileEntry name value dictionary.entries,
    fileEntry_ordered name value dictionary.ordered⟩

def erase (dictionary : Dictionary α) (name : String) : Dictionary α :=
  ⟨dropEntry name dictionary.entries, dropEntry_ordered name dictionary.ordered⟩

def contains (dictionary : Dictionary α) (name : String) : Bool :=
  (dictionary.get? name).isSome

def names (dictionary : Dictionary α) : List String :=
  dictionary.entries.map (·.1)

def values (dictionary : Dictionary α) : List α :=
  dictionary.entries.map (·.2)

theorem ext {left right : Dictionary α} (same : left.entries = right.entries) :
    left = right := by
  cases left
  cases right
  cases same
  rfl

instance [DecidableEq α] : DecidableEq (Dictionary α) := fun left right =>
  decidable_of_iff (left.entries = right.entries)
    ⟨ext, fun same => same ▸ rfl⟩

end Dictionary

end WorkspaceStartup
