import WorkspaceStartup.Proofs.Progress.History

/-!
# Lines of a log

A line that is added to an empty log takes its place, whether or not empty lines
were added before.  A log therefore joins its lines with line feeds, but only
from the first line on that is not empty, and it shows all of them exactly if no
empty line stands in front of others (`Step.Collects`).  This holds of every log
since it was last cleared, whatever is done to other steps
(`collects_after_reset`).
-/

namespace WorkspaceStartup

namespace Tracker

/-- The lines from the first one on that is not empty. -/
def lasting (lines : List String) : List String :=
  lines.dropWhile (·.isEmpty)

/-- No empty line stands in front of others. -/
def AllLast (lines : List String) : Prop :=
  lines.length ≤ 1 ∨ lines.head? ≠ some ""

instance (lines : List String) : Decidable (AllLast lines) :=
  inferInstanceAs (Decidable (_ ∨ _))

end Tracker

open Tracker in
/-- The log of the step is made of these lines. -/
structure Step.Collects (step : Step) (lines : List String) : Prop where
  joined : step.logs = "\n".intercalate (lasting lines)
  complete : step.logs = "\n".intercalate lines ↔ AllLast lines
  fields : lines ≠ [] → (∀ line ∈ lines, '\n' ∉ line.toList) →
    ((step.logs.toList.splitOn '\n').length = lines.length ↔ AllLast lines)

namespace Tracker

variable {lines : List String} {first : String} {others : List String}

/-! ## Lines that last -/

theorem lasting_cons_empty : lasting ("" :: others) = lasting others := rfl

theorem lasting_cons_of_ne (shown : first ≠ "") :
    lasting (first :: others) = first :: others :=
  List.dropWhile_cons_of_neg (by simpa using shown)

theorem lasting_sublist (lines : List String) : (lasting lines).Sublist lines :=
  List.dropWhile_sublist _

theorem ne_empty_of_lasting (starts : lasting lines = first :: others) :
    first ≠ "" := by
  have stops := List.head?_dropWhile_not (·.isEmpty) lines
  rw [← lasting, starts] at stops
  simpa using stops

theorem lasting_concat (lines : List String) (line : String) :
    lasting (lines ++ [line]) =
      if lasting lines = [] then lasting [line] else lasting lines ++ [line] := by
  rw [lasting, List.dropWhile_append]
  exact if_congr List.isEmpty_iff rfl rfl

/-- Joined lines that start with text are not empty. -/
theorem intercalate_lasting_eq_empty_iff :
    "\n".intercalate (lasting lines) = "" ↔ lasting lines = [] := by
  constructor
  · intro nothing
    cases starts : lasting lines with
    | nil => rfl
    | cons first others =>
        refine (ne_empty_of_lasting starts ?_).elim
        rw [starts] at nothing
        cases others with
        | nil => simpa using nothing
        | cons => simp [String.append_eq_empty_iff] at nothing
  · intro none
    rw [none, String.intercalate_nil]

/-- A log to which lines were added joins those that last. -/
theorem log_additions (lines : List String) :
    Writing.log (lines.map .addition) = "\n".intercalate (lasting lines) := by
  induction lines using List.reverseRecOn with
  | nil => rfl
  | append_singleton lines line induction =>
      rw [List.map_append, Writing.log, List.foldl_append, ← Writing.log, induction,
        lasting_concat]
      simp only [List.map_cons, List.map_nil, List.foldl_cons, List.foldl_nil,
        Writing.onto, String.isEmpty_iff, intercalate_lasting_eq_empty_iff]
      split
      · by_cases empty : line = ""
        · simp [empty, lasting]
        · rw [lasting_cons_of_ne empty, String.intercalate_singleton]
      · next some =>
          rw [String.intercalate_append_of_ne_nil some (List.cons_ne_nil _ _),
            String.intercalate_singleton]

theorem lasting_of_head (shown : lines.head? ≠ some "") :
    lasting lines = lines := by
  cases lines with
  | nil => rfl
  | cons first others =>
      exact lasting_cons_of_ne (by simpa using shown)

/-- A single line is its own log, even if it is empty. -/
theorem intercalate_lasting_of_allLast (last : AllLast lines) :
    "\n".intercalate (lasting lines) = "\n".intercalate lines := by
  rcases last with few | shown
  · match lines, few with
    | [], _ => rfl
    | [line], _ =>
        by_cases empty : line = ""
        · simp [empty, lasting]
        · rw [lasting_cons_of_ne empty]
  · rw [lasting_of_head shown]

theorem length_intercalate_lasting_le (lines : List String) :
    ("\n".intercalate (lasting lines)).length ≤
      ("\n".intercalate lines).length := by
  induction lines with
  | nil => exact Nat.le_refl _
  | cons first others induction =>
      by_cases empty : first = ""
      · subst empty
        rw [lasting_cons_empty]
        cases others with
        | nil => exact induction
        | cons =>
            refine induction.trans ?_
            rw [String.intercalate_cons_cons, String.length_append]
            exact Nat.le_add_left _ _
      · rw [lasting_cons_of_ne empty]

theorem exists_of_not_allLast (lost : ¬ AllLast lines) :
    ∃ second others, lines = "" :: second :: others := by
  obtain ⟨many, empty⟩ := not_or.mp lost
  match lines, many, not_not.mp empty with
  | _ :: second :: others, _, rfl => exact ⟨second, others, rfl⟩

/-- The line feeds behind empty lines in front are missing. -/
theorem intercalate_lasting_eq_iff :
    "\n".intercalate (lasting lines) = "\n".intercalate lines ↔
      AllLast lines := by
  refine ⟨fun same => ?_, intercalate_lasting_of_allLast⟩
  by_contra lost
  obtain ⟨second, others, rfl⟩ := exists_of_not_allLast lost
  have shorter := length_intercalate_lasting_le (second :: others)
  have length := congrArg String.length same
  rw [lasting_cons_empty, String.intercalate_cons_cons, String.length_append,
    String.length_append] at length
  have feed : "\n".length = 1 := rfl
  omega

/-! ## Fields between line feeds -/

theorem splitOn_intercalate (some : lines ≠ [])
    (single : ∀ line ∈ lines, '\n' ∉ line.toList) :
    ("\n".intercalate lines).toList.splitOn '\n' = lines.map String.toList := by
  rw [String.toList_intercalate]
  refine List.splitOn_intercalate '\n' ?_ (by simpa using some)
  simpa using single

theorem length_splitOn_lasting (single : ∀ line ∈ lines, '\n' ∉ line.toList) :
    (("\n".intercalate (lasting lines)).toList.splitOn '\n').length =
      max 1 (lasting lines).length := by
  by_cases none : lasting lines = []
  · rw [none]
    rfl
  · rw [splitOn_intercalate none fun line member =>
      single line ((lasting_sublist lines).subset member), List.length_map]
    exact (max_eq_right (List.length_pos_iff.mpr none)).symm

theorem length_splitOn_lasting_eq_iff (some : lines ≠ [])
    (single : ∀ line ∈ lines, '\n' ∉ line.toList) :
    (("\n".intercalate (lasting lines)).toList.splitOn '\n').length =
      lines.length ↔ AllLast lines := by
  constructor
  · intro same
    by_contra lost
    obtain ⟨second, others, rfl⟩ := exists_of_not_allLast lost
    have fewer := (lasting_sublist (second :: others)).length_le
    rw [length_splitOn_lasting single, lasting_cons_empty] at same
    simp only [List.length_cons] at same fewer
    omega
  · intro last
    rw [intercalate_lasting_of_allLast last, splitOn_intercalate some single,
      List.length_map]

theorem collects_of_logs {step : Step}
    (logs : step.logs = Writing.log (lines.map .addition)) :
    step.Collects lines := by
  have joined := logs.trans (log_additions lines)
  refine ⟨joined, ?_, fun some single => ?_⟩
  · rw [joined]
    exact intercalate_lasting_eq_iff
  · rw [joined]
    exact length_splitOn_lasting_eq_iff some single

/-! ## Changes that add lines -/

namespace Change

/-- The line that a change adds to the log of a step. -/
def line? (step : Nat) : Change → Option String
  | .append other line => if other = step then some line else none
  | .advance _ | .replaceLog _ _ | .markFailed _ | .reset => none

/-- The change neither clears nor replaces the log of a step. -/
def KeepsLog (step : Nat) (change : Change) : Prop :=
  change ≠ .reset ∧ ∀ text, change ≠ .replaceLog step text

theorem KeepsLog.writing? {step : Nat} {change : Change}
    (keeps : change.KeepsLog step) :
    change.writing? step = (change.line? step).map .addition := by
  cases change with
  | append other line =>
      by_cases here : other = step <;> simp [Change.writing?, line?, here]
  | replaceLog other text =>
      have elsewhere : other ≠ step := by
        rintro rfl
        exact keeps.2 text rfl
      simp [Change.writing?, line?, elsewhere]
  | advance | markFailed | reset => rfl

end Change

theorem recalls_after_reset (tracker : Tracker) (changes : List Change) :
    Recalls (tracker.steps.map (·.labels)) (Change.sinceReset changes)
      (tracker.reset.after changes) := by
  have renewed : tracker.reset = ofLabels (tracker.steps.map (·.labels)) := by
    simp [reset, ofLabels]
  rw [renewed]
  exact recalls_after _ changes

theorem exists_step?_after_reset (tracker : Tracker) {step : Nat}
    (inRange : step < tracker.steps.length) (changes : List Change) :
    ∃ entry, (tracker.reset.after changes).step? step = some entry := by
  rw [(recalls_after_reset tracker changes).entries, List.getElem?_map,
    List.getElem?_eq_getElem inRange]
  exact ⟨_, rfl⟩

/-- Since a tracker was reset, the lines added to the log of a step make it. -/
theorem collects_after_reset {tracker : Tracker} {changes : List Change}
    {step : Nat} {entry : Step}
    (found : (tracker.reset.after changes).step? step = some entry)
    (keep : ∀ change ∈ changes, change.KeepsLog step) :
    entry.Collects (changes.filterMap (Change.line? step)) := by
  have recent : Change.sinceReset changes = changes :=
    List.rtakeWhile_eq_self_iff.mpr fun change member =>
      decide_eq_true (keep change member).1
  rw [(recalls_after_reset tracker changes).entries, recent] at found
  obtain ⟨labels, -, rfl⟩ := Option.map_eq_some_iff.mp found
  apply collects_of_logs
  rw [recalled, List.map_filterMap]
  exact congrArg Writing.log
    (List.filterMap_congr fun change member => (keep change member).writing?)

end Tracker

end WorkspaceStartup
