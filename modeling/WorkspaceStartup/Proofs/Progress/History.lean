import Mathlib.Data.List.DropRight
import Mathlib.Order.Bounds.Basic
import WorkspaceStartup.Proofs.Progress

/-!
# A tracker and its history

What a tracker shows is told by the changes it was asked for since it was last
reset: the current step is the latest one that any of them moved to, a step is
marked as failed if one of them marked it, and its log is what they wrote into
it.  `Recalls` says so; one change keeps it (`Recalls.changed`), and so does
every sequence of changes (`recalls_after`).
-/

namespace WorkspaceStartup

namespace Tracker

/-- Something written into the log of a step. -/
inductive Writing
  | addition (line : String)
  | replacement (text : String)
  deriving DecidableEq, Repr

namespace Writing

/-- A log after a further writing. -/
def onto (log : String) : Writing → String
  | .addition line => if log.isEmpty then line else log ++ "\n" ++ line
  | .replacement text => text

/-- The log that a sequence of writings leaves. -/
def log (writings : List Writing) : String := writings.foldl onto ""

end Writing

namespace Change

/-- The changes since the last reset, all of them if there was none. -/
def sinceReset (changes : List Change) : List Change :=
  changes.rtakeWhile (· ≠ .reset)

/-- The step that a change edits. -/
def edited? : Change → Option Nat
  | .append step _ | .replaceLog step _ | .markFailed step => some step
  | .advance _ | .reset => none

/-- What a change writes into the log of a step. -/
def writing? (step : Nat) : Change → Option Writing
  | .append other line => if other = step then some (.addition line) else none
  | .replaceLog other text => if other = step then some (.replacement text) else none
  | .advance _ | .markFailed _ | .reset => none

/-- What a change does to the entry of a step. -/
def onEntry (step : Nat) (change : Change) (entry : Step) : Step :=
  match change with
  | .append other line => if other = step then entry.append line else entry
  | .replaceLog other text =>
      if other = step then { entry with logs := text } else entry
  | .markFailed other =>
      if other = step then { entry with failed := true } else entry
  | .reset => .blank entry.labels
  | .advance _ => entry

theorem sinceReset_concat (changes : List Change) (change : Change) :
    sinceReset (changes ++ [change]) =
      if change = .reset then [] else sinceReset changes ++ [change] := by
  rw [sinceReset, List.rtakeWhile_concat]
  by_cases isReset : change = .reset <;> simp [isReset, sinceReset]

end Change

/-- The entry of a step that has the labels and is told by changes. -/
def recalled (changes : List Change) (step : Nat) (labels : StepLabels) : Step where
  labels := labels
  logs := Writing.log (changes.filterMap (Change.writing? step))
  failed := decide (.markFailed step ∈ changes)

/-- The steps among the first `count` that changes move to, and the first one. -/
def reached (count : Nat) (changes : List Change) : Set Nat :=
  {step | step = 0 ∨ .advance step ∈ changes ∧ step < count}

/-- The tracker has the labelled steps, and changes tell what it shows. -/
structure Recalls (labels : List StepLabels) (changes : List Change)
    (tracker : Tracker) : Prop where
  entries : ∀ step, tracker.step? step =
    labels[step]?.map (recalled changes step)
  current : IsGreatest (reached labels.length changes) tracker.current

variable {labels : List StepLabels} {changes : List Change} {change : Change}
  {tracker : Tracker}

/-! ## One change -/

theorem step?_update {step : Nat} {edit : Step → Step} (other : Nat) :
    ((tracker.update step edit).getD tracker).step? other =
      (tracker.step? other).map fun entry =>
        if step = other then edit entry else entry := by
  unfold update
  split
  · simp only [Option.getD_some, step?, List.getElem?_modify]
    rfl
  · next outOfRange =>
      by_cases here : step = other
      · subst here
        simp [step?, List.getElem?_eq_none (Nat.le_of_not_lt outOfRange)]
      · simp [here]

theorem current_update {step : Nat} {edit : Step → Step} :
    ((tracker.update step edit).getD tracker).current = tracker.current := by
  unfold update
  split <;> rfl

theorem step?_changed (tracker : Tracker) (change : Change) (step : Nat) :
    (tracker.changed change).step? step =
      (tracker.step? step).map (change.onEntry step) := by
  cases change with
  | advance target =>
      have kept : (tracker.changed (.advance target)).steps = tracker.steps := by
        simp only [changed, change?, advance]
        split <;> rfl
      rw [step?, kept]
      exact Option.map_id'.symm
  | append | replaceLog | markFailed => exact step?_update step
  | reset => exact List.getElem?_map ..

theorem current_changed_edit {step : Nat} (edits : change.edited? = some step) :
    (tracker.changed change).current = tracker.current := by
  cases change with
  | append | replaceLog | markFailed => exact current_update
  | advance | reset => cases edits

theorem current_changed_advance (tracker : Tracker) (step : Nat) :
    (tracker.changed (.advance step)).current =
      if tracker.current < step ∧ step < tracker.steps.length then step
      else tracker.current := by
  simp only [changed, change?, advance]
  split <;> rfl

theorem recalled_concat (step : Nat) (labels : StepLabels) :
    recalled (changes ++ [change]) step labels =
      { recalled changes step labels with
        logs := (change.writing? step).elim (recalled changes step labels).logs
          (Writing.onto (recalled changes step labels).logs)
        failed := (recalled changes step labels).failed ||
          decide (change = .markFailed step) } := by
  cases written : change.writing? step with
  | none => simp [recalled, List.filterMap_append, written, eq_comm]
  | some writing =>
      simp [recalled, List.filterMap_append, written, Writing.log, eq_comm]

theorem onEntry_recalled (kept : change ≠ .reset) (step : Nat)
    (labels : StepLabels) :
    change.onEntry step (recalled changes step labels) =
      recalled (changes ++ [change]) step labels := by
  rw [recalled_concat]
  cases change with
  | advance => simp [Change.onEntry, Change.writing?]
  | append other line =>
      by_cases here : other = step
      · simp [Change.onEntry, Change.writing?, here, Step.append, Writing.onto]
      · simp [Change.onEntry, Change.writing?, here]
  | replaceLog other text =>
      by_cases here : other = step
      · simp [Change.onEntry, Change.writing?, here, Writing.onto]
      · simp [Change.onEntry, Change.writing?, here]
  | markFailed other =>
      by_cases here : other = step
      · simp [Change.onEntry, Change.writing?, here]
      · simp [Change.onEntry, Change.writing?, here]
  | reset => exact (kept rfl).elim

theorem Recalls.labels_eq (recalls : Recalls labels changes tracker) :
    tracker.steps.map (·.labels) = labels := by
  apply List.ext_getElem?
  intro step
  rw [List.getElem?_map, ← step?, recalls.entries, Option.map_map]
  exact Option.map_id'

theorem Recalls.length_eq (recalls : Recalls labels changes tracker) :
    tracker.steps.length = labels.length := by
  have same := congrArg List.length recalls.labels_eq
  rwa [List.length_map] at same

theorem reached_concat_edit (count : Nat)
    (edits : ∀ step, change ≠ .advance step) :
    reached count (changes ++ [change]) = reached count changes := by
  ext step
  simp [reached, (edits step).symm]

/-- Moving forward makes the target the latest step reached, if it is later. -/
theorem isGreatest_reached_concat {count current : Nat} (step : Nat)
    (greatest : IsGreatest (reached count changes) current) :
    IsGreatest (reached count (changes ++ [.advance step]))
      (if current < step ∧ step < count then step else current) := by
  have mem_iff (other : Nat) :
      other ∈ reached count (changes ++ [.advance step]) ↔
        other ∈ reached count changes ∨ other = step ∧ step < count := by
    simp only [reached, Set.mem_ofPred_eq, List.mem_append, List.mem_singleton,
      Change.advance.injEq]
    grind
  obtain ⟨isReached, bound⟩ := greatest
  split
  · next ahead =>
      refine ⟨(mem_iff step).mpr (.inr ⟨rfl, ahead.2⟩), ?_⟩
      intro other member
      rcases (mem_iff other).mp member with before | ⟨rfl, -⟩
      · exact (bound before).trans ahead.1.le
      · exact le_rfl
  · next notAhead =>
      refine ⟨(mem_iff current).mpr (.inl isReached), ?_⟩
      intro other member
      rcases (mem_iff other).mp member with before | ⟨rfl, inRange⟩
      · exact bound before
      · exact Nat.le_of_not_lt fun later => notAhead ⟨later, inRange⟩

theorem Recalls.changed (recalls : Recalls labels changes tracker)
    (kept : change ≠ .reset) :
    Recalls labels (changes ++ [change]) (tracker.changed change) where
  entries := by
    intro step
    rw [step?_changed, recalls.entries, Option.map_map]
    refine congrArg (Option.map · labels[step]?) (funext fun labels => ?_)
    exact onEntry_recalled kept step labels
  current := by
    cases change with
    | advance step =>
        rw [current_changed_advance, recalls.length_eq]
        exact isGreatest_reached_concat step recalls.current
    | append | replaceLog | markFailed =>
        rw [current_changed_edit rfl, reached_concat_edit]
        · exact recalls.current
        · exact fun _ => nofun
    | reset => exact (kept rfl).elim

/-- A reset leaves nothing but the labels to tell. -/
theorem Recalls.changed_reset (recalls : Recalls labels changes tracker) :
    tracker.changed .reset = ofLabels labels := by
  have steps : tracker.steps.map (fun step => Step.blank step.labels) =
      labels.map Step.blank := by
    rw [← recalls.labels_eq, List.map_map]
    rfl
  simp [Tracker.changed, change?, reset, ofLabels, steps]

/-! ## Any number of changes -/

theorem recalls_ofLabels (labels : List StepLabels) :
    Recalls labels [] (ofLabels labels) where
  entries := fun _ => List.getElem?_map ..
  current := ⟨.inl rfl, by simp [reached, ofLabels, upperBounds]⟩

theorem after_concat (tracker : Tracker) (changes : List Change)
    (change : Change) :
    tracker.after (changes ++ [change]) =
      (tracker.after changes).changed change :=
  List.foldl_concat ..

theorem recalls_after (labels : List StepLabels) (changes : List Change) :
    Recalls labels (Change.sinceReset changes)
      ((ofLabels labels).after changes) := by
  induction changes using List.reverseRecOn with
  | nil => exact recalls_ofLabels labels
  | append_singleton changes change induction =>
      rw [after_concat, Change.sinceReset_concat]
      split
      · next isReset =>
          rw [isReset, induction.changed_reset]
          exact recalls_ofLabels labels
      · next kept => exact induction.changed kept

/-- The current step is one of the steps, if there are any. -/
theorem Recalls.current_lt (recalls : Recalls labels changes tracker)
    (some : labels ≠ []) : tracker.current < labels.length := by
  rcases recalls.current.1 with first | ⟨-, inRange⟩
  · rw [first]
    exact List.length_pos_iff.mpr some
  · exact inRange

theorem Recalls.current_eq_zero (recalls : Recalls labels changes tracker)
    (none : labels = []) : tracker.current = 0 := by
  rcases recalls.current.1 with first | ⟨-, inRange⟩
  · exact first
  · simp [none] at inRange

/-! ## Answers -/

theorem isSome_advance_iff (tracker : Tracker) (step : Nat) :
    (tracker.change? (.advance step)).isSome = true ↔
      tracker.current < (tracker.changed (.advance step)).current := by
  rw [current_changed_advance]
  simp only [change?, advance]
  split
  · next ahead => simp [ahead.1]
  · simp

theorem isSome_edit_iff {step : Nat} (edits : change.edited? = some step) :
    (tracker.change? change).isSome = true ↔ step < tracker.steps.length := by
  cases change with
  | append | replaceLog | markFailed =>
      cases edits
      simp only [change?, append, replaceLog, markFailed, update]
      split <;> simp [*]
  | advance | reset => cases edits

/-- Whatever a tracker is asked for, it keeps its steps and their labels, and
the changes since the last reset tell the current step, the marks and the logs.
A change is refused exactly when there is nothing to change, and leaves the
tracker as it is; after a reset the tracker is a new one. -/
theorem trackers_tell_their_history (labels : List StepLabels)
    (changes : List Change) :
    let tracker := (ofLabels labels).after changes
    let recent := Change.sinceReset changes
    tracker.steps.map (·.labels) = labels ∧
    IsGreatest {step | step = 0 ∨ .advance step ∈ recent ∧ step < labels.length}
      tracker.current ∧
    (tracker.current < labels.length ∨ labels = [] ∧ tracker.current = 0) ∧
    (∀ step entry, tracker.step? step = some entry →
      (entry.failed = true ↔ .markFailed step ∈ recent) ∧
      entry.logs = Writing.log (recent.filterMap (Change.writing? step))) ∧
    (∀ step, (tracker.change? (.advance step)).isSome = true ↔
      tracker.current < (tracker.changed (.advance step)).current) ∧
    (∀ change step, Change.edited? change = some step →
      ((tracker.change? change).isSome = true ↔ step < labels.length)) ∧
    (∀ change, tracker.change? change = none →
      tracker.changed change = tracker) ∧
    tracker.changed .reset = ofLabels labels := by
  intro tracker recent
  have recalls : Recalls labels recent tracker := recalls_after labels changes
  refine ⟨recalls.labels_eq, recalls.current, ?_, ?_, isSome_advance_iff tracker,
    ?_, ?_, recalls.changed_reset⟩
  · by_cases none : labels = []
    · exact .inr ⟨none, recalls.current_eq_zero none⟩
    · exact .inl (recalls.current_lt none)
  · intro step entry found
    rw [recalls.entries] at found
    obtain ⟨labels, -, rfl⟩ := Option.map_eq_some_iff.mp found
    exact ⟨decide_eq_true_iff, rfl⟩
  · intro change step edits
    rw [isSome_edit_iff edits, recalls.length_eq]
  · intro change refused
    rw [changed, refused, Option.getD_none]

example : (startup.after [.markFailed 1, .advance 2, .reset, .advance 7,
    .advance 1]) = { startup with current := 1 } := rfl

end Tracker

end WorkspaceStartup
