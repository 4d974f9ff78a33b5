import WorkspaceStartup.Journal

/-!
# What a journal tells about one start

The entries made on behalf of a start, and what is selected from their deeds:
its reports, and the announcements that it has failed.
-/

namespace WorkspaceStartup

/-- The announcement that a start has failed. -/
def Deed.failure? : Deed → Option Event
  | .announced (.startFailed id phase message) =>
      some (.startFailed id phase message)
  | _ => none

/-- The deed is no report and does not announce that a start has failed. -/
def Deed.Plain (deed : Deed) : Prop :=
  deed.report? = none ∧ deed.failure? = none

namespace Entry

variable {α : Type} {start : Nat} {entries added : List Entry}
  {choose : Deed → Option α}

/-- The entries made on behalf of a start. -/
def ofStart (start : Nat) (entries : List Entry) : List Entry :=
  entries.filter (·.start == start)

/-- What is selected from the deeds done on behalf of a start. -/
def select (choose : Deed → Option α) (start : Nat) (entries : List Entry) :
    List α :=
  (ofStart start entries).filterMap fun entry => choose entry.deed

theorem events_cons (entry : Entry) :
    events (entry :: entries) = entry.deed.event?.toList ++ events entries := by
  cases chosen : entry.deed.event? with
  | none => simp [events, chosen]
  | some event => simp [events, chosen]

theorem reports_cons (entry : Entry) :
    reports (entry :: entries) =
      entry.deed.report?.toList ++ reports entries := by
  cases chosen : entry.deed.report? with
  | none => simp [reports, chosen]
  | some report => simp [reports, chosen]

theorem openings_cons (entry : Entry) :
    openings (entry :: entries) =
      (entry.deed.openedUrl?.map fun url => (url, entry.time)).toList ++
        openings entries := by
  cases chosen : entry.deed.openedUrl? with
  | none => simp [openings, chosen]
  | some url => simp [openings, chosen]

theorem reports_append_of_none
    (nothing : ∀ item ∈ added, item.deed.report? = none) :
    reports (added ++ entries) = reports entries := by
  rw [reports, List.filterMap_append, List.filterMap_eq_nil_iff.mpr nothing]
  rfl

theorem openings_append_of_none
    (nothing : ∀ item ∈ added, item.deed.openedUrl? = none) :
    openings (added ++ entries) = openings entries := by
  rw [openings, List.filterMap_append, List.filterMap_eq_nil_iff.mpr]
  · rfl
  · intro item member
    rw [nothing item member, Option.map_none]

theorem ofStart_cons (entry : Entry) :
    ofStart start (entry :: entries) =
      if entry.start = start then entry :: ofStart start entries
      else ofStart start entries := by
  simp only [ofStart, List.filter_cons, beq_iff_eq]

theorem ofStart_append :
    ofStart start (added ++ entries) =
      ofStart start added ++ ofStart start entries :=
  List.filter_append ..

theorem ofStart_eq_nil (others : ∀ item ∈ entries, item.start ≠ start) :
    ofStart start entries = [] := by
  rw [ofStart, List.filter_eq_nil_iff]
  intro item member
  simpa using others item member

theorem select_cons (entry : Entry) :
    select choose start (entry :: entries) =
      if entry.start = start then
        (choose entry.deed).toList ++ select choose start entries
      else select choose start entries := by
  rw [select, ofStart_cons]
  split
  · cases chosen : choose entry.deed with
    | none => simp [select, chosen]
    | some choice => simp [select, chosen]
  · rfl

theorem select_eq_nil (others : ∀ item ∈ entries, item.start ≠ start) :
    select choose start entries = [] := by
  rw [select, ofStart_eq_nil others, List.filterMap_nil]

theorem eq_none_of_select_eq_nil {item : Entry}
    (nothing : select choose start entries = []) (member : item ∈ entries)
    (own : item.start = start) : choose item.deed = none := by
  refine List.filterMap_eq_nil_iff.mp nothing item ?_
  exact List.mem_filter.mpr ⟨member, beq_iff_eq.mpr own⟩

theorem select_cons_of_other {entry : Entry} (other : entry.start ≠ start) :
    select choose start (entry :: entries) = select choose start entries := by
  rw [select_cons, if_neg other]

theorem select_cons_of_none {entry : Entry}
    (nothing : choose entry.deed = none) :
    select choose start (entry :: entries) = select choose start entries := by
  rw [select_cons, nothing]
  exact ite_self _

theorem select_append :
    select choose start (added ++ entries) =
      select choose start added ++ select choose start entries := by
  rw [select, ofStart_append, List.filterMap_append]
  rfl

theorem select_append_of_none
    (nothing : ∀ item ∈ added, choose item.deed = none) :
    select choose start (added ++ entries) = select choose start entries := by
  induction added with
  | nil => rfl
  | cons entry rest induction =>
      obtain ⟨none, others⟩ := List.forall_mem_cons.mp nothing
      exact (select_cons_of_none none).trans (induction others)

end Entry

end WorkspaceStartup
