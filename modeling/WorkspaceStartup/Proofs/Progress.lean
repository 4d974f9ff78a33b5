import WorkspaceStartup.Progress

/-!
# Changes of the progress

What a change of one step does to the others and to the position of the
current step.  A tracker of a startup keeps its three steps through every
change, so resetting it gives back the tracker of a new startup.
-/

namespace WorkspaceStartup

namespace Step

/-- A line stands last in the log of the step. -/
def EndsWith (step : Step) (line : String) : Prop :=
  step.logs = line ∨ ∃ earlier, step.logs = earlier ++ "\n" ++ line

theorem append_endsWith (step : Step) (line : String) :
    (step.append line).EndsWith line := by
  unfold EndsWith append
  split
  · exact .inl rfl
  · exact .inr ⟨step.logs, rfl⟩

end Step

namespace Tracker

/-- The tracker is one of a startup, and one of its steps is current. -/
structure OfStartup (tracker : Tracker) : Prop where
  labels : tracker.steps.map (·.labels) = startupSteps
  current : tracker.current < tracker.steps.length

/-- The current step is marked as failed, and a line stands last in its log. -/
def ShowsFailure (tracker : Tracker) (line : String) : Prop :=
  ∃ step, tracker.step? tracker.current = some step ∧
    step.failed = true ∧ step.EndsWith line

variable {tracker after : Tracker} {step : Nat} {change : Step → Step}

theorem update_eq_some_iff :
    tracker.update step change = some after ↔
      step < tracker.steps.length ∧
        after = { tracker with steps := tracker.steps.modify step change } := by
  unfold update
  split
  · next inRange => simp [inRange, eq_comm]
  · next outOfRange => simp [outOfRange]

theorem advance_eq_some_iff :
    tracker.advance step = some after ↔
      tracker.current < step ∧ step < tracker.steps.length ∧
        after = { tracker with current := step } := by
  unfold advance
  split
  · next ahead => simp [ahead, eq_comm]
  · next notAhead =>
      constructor
      · intro impossible
        cases impossible
      · rintro ⟨later, inRange, -⟩
        exact (notAhead ⟨later, inRange⟩).elim

theorem startup_ofStartup : startup.OfStartup := ⟨rfl, by decide⟩

theorem OfStartup.length (sound : tracker.OfStartup) :
    tracker.steps.length = 3 := by
  have same := congrArg List.length sound.labels
  rwa [List.length_map] at same

theorem OfStartup.current_le (sound : tracker.OfStartup) :
    tracker.current ≤ startedStep := by
  have inRange := sound.current
  rw [sound.length] at inRange
  exact Nat.le_of_lt_succ inRange

theorem OfStartup.advance (sound : tracker.OfStartup)
    (moved : tracker.advance step = some after) : after.OfStartup := by
  obtain ⟨-, inRange, rfl⟩ := advance_eq_some_iff.mp moved
  exact ⟨sound.labels, inRange⟩

theorem OfStartup.update (sound : tracker.OfStartup)
    (keeps : ∀ entry, (change entry).labels = entry.labels)
    (changed : tracker.update step change = some after) : after.OfStartup := by
  obtain ⟨-, rfl⟩ := update_eq_some_iff.mp changed
  have sameLabels : (tracker.steps.modify step change).map (·.labels) =
      tracker.steps.map (·.labels) := by
    apply List.ext_getElem?
    intro position
    by_cases here : step = position
    · simp [here, Function.comp_def, keeps]
    · simp [here]
  exact ⟨sameLabels.trans sound.labels, by simpa using sound.current⟩

theorem OfStartup.append {line : String} (sound : tracker.OfStartup)
    (added : tracker.append step line = some after) : after.OfStartup := by
  refine sound.update ?_ added
  exact fun _ => rfl

theorem OfStartup.replaceLog {text : String} (sound : tracker.OfStartup)
    (replaced : tracker.replaceLog step text = some after) :
    after.OfStartup := by
  refine sound.update ?_ replaced
  exact fun _ => rfl

theorem OfStartup.markFailed (sound : tracker.OfStartup)
    (mark : tracker.markFailed step = some after) : after.OfStartup := by
  refine sound.update ?_ mark
  exact fun _ => rfl

theorem reset_eq_startup
    (labels : tracker.steps.map (·.labels) = startupSteps) :
    tracker.reset = startup := by
  have sameSteps : tracker.steps.map (fun step => Step.blank step.labels) =
      startupSteps.map Step.blank := by
    rw [← labels, List.map_map]
    rfl
  simp [reset, startup, ofLabels, sameSteps]

/-- A step of a startup bears its second label from the moment it is reached. -/
theorem OfStartup.labelFor? (sound : tracker.OfStartup) {labels : StepLabels}
    (found : startupSteps[step]? = some labels) :
    tracker.labelFor? step =
      some (if step ≤ tracker.current then labels.activeLabel
        else labels.label) := by
  rw [← sound.labels, List.getElem?_map] at found
  obtain ⟨entry, foundEntry, rfl⟩ := Option.map_eq_some_iff.mp found
  rw [Tracker.labelFor?, step?, foundEntry]
  rfl

theorem label_ne_activeLabel :
    ∀ labels ∈ startupSteps, labels.label ≠ labels.activeLabel := by
  decide

/-- Marking the current step and logging a line there shows a failure. -/
theorem exists_showsFailure (change : Step → Step) (line : String)
    (inRange : tracker.current < tracker.steps.length)
    (keeps : ∀ entry, (change entry).failed = entry.failed)
    (ends : ∀ entry, (change entry).EndsWith line) :
    ∃ marked logged, tracker.markFailed tracker.current = some marked ∧
      marked.update tracker.current change = some logged ∧
      logged.ShowsFailure line := by
  obtain ⟨entry, found⟩ :
      ∃ entry, tracker.steps[tracker.current]? = some entry :=
    ⟨_, List.getElem?_eq_getElem inRange⟩
  let mark : Step → Step := fun entry => { entry with failed := true }
  let marked : Tracker :=
    { tracker with steps := tracker.steps.modify tracker.current mark }
  let logged : Tracker :=
    { marked with steps := marked.steps.modify tracker.current change }
  refine ⟨marked, logged, ?_, ?_, change (mark entry), ?_, ?_, ends _⟩
  · exact update_eq_some_iff.mpr ⟨inRange, rfl⟩
  · exact update_eq_some_iff.mpr ⟨by simpa [marked] using inRange, rfl⟩
  · simp [logged, marked, step?, found]
  · simp [mark, keeps]

end Tracker

end WorkspaceStartup
