import WorkspaceStartup.Proofs.Controller.Recount
import WorkspaceStartup.Proofs.Progress.Line

/-!
# Logs and the lines that were announced

The events that were announced since the latest beginning are the changes that
made the progress which is shown.  None of them clears or replaces a log, so
the log of every step is made of the lines that were announced for it.
-/

namespace WorkspaceStartup

namespace Event

/-- The change of the progress that an event announces. -/
def change? : Event → Option Tracker.Change
  | .stepAdvanced _ step => some (.advance step)
  | .stepLogged _ step line => some (.append step line)
  | .stepFailed _ step => some (.markFailed step)
  | .recentUpdated _ | .listRefresh _ | .connectAttempted _ _ _
  | .agentConnected _ _ | .startSucceeded _ | .startFailed _ _ _
  | .superseded _ _ => none

/-- The line that an event announces for a step. -/
def line? (step : Nat) : Event → Option String
  | .stepLogged _ other line => if other = step then some line else none
  | _ => none

variable {event : Event} {step : Nat}

theorem line?_eq (event : Event) (step : Nat) :
    event.line? step = event.change?.bind (Tracker.Change.line? step) := by
  cases event <;> rfl

theorem keepsLog_of_change? {change : Tracker.Change}
    (announces : event.change? = some change) (step : Nat) :
    change.KeepsLog step := by
  cases event with
  | stepAdvanced | stepLogged | stepFailed =>
      cases announces
      exact ⟨nofun, nofun⟩
  | recentUpdated | listRefresh | connectAttempted | agentConnected
  | startSucceeded | startFailed | superseded => cases announces

end Event

namespace Tracker

theorem follow_eq (tracker : Tracker) (event : Event) :
    tracker.follow event = tracker.after event.change?.toList := by
  cases event <;> rfl

/-- To replay events is to make the changes that they announce. -/
theorem replay_eq_after (tracker : Tracker) (events : List Event) :
    tracker.replay events = tracker.after (events.filterMap Event.change?) := by
  induction events generalizing tracker with
  | nil => rfl
  | cons event others induction =>
      have first : tracker.replay (event :: others) =
          (tracker.follow event).replay others := rfl
      rw [first, follow_eq, induction, List.filterMap_cons]
      cases event.change? <;> rfl

theorem reset_ofLabels (labels : List StepLabels) :
    (ofLabels labels).reset = ofLabels labels := by
  simp [reset, ofLabels, Step.blank, Function.comp_def]

/-- The lines announced for a step of a new tracker make its log. -/
theorem collects_of_replay {labels : List StepLabels} {events : List Event}
    {step : Nat} {entry : Step}
    (found : ((ofLabels labels).replay events).step? step = some entry) :
    entry.Collects (events.filterMap (Event.line? step)) := by
  rw [replay_eq_after, ← reset_ofLabels] at found
  have keep : ∀ change ∈ events.filterMap Event.change?,
      change.KeepsLog step := by
    intro change member
    obtain ⟨event, -, announces⟩ := List.mem_filterMap.mp member
    exact event.keepsLog_of_change? announces step
  have collects := collects_after_reset found keep
  rw [List.filterMap_filterMap] at collects
  simpa only [← Event.line?_eq] using collects

end Tracker

namespace Controller

/-- Whatever is done to a tracker since it was reset, short of replacing the log
of the step, that log is made of the lines that were added to it; and in every
reachable state the log of the step is made of the lines announced for it since
the latest beginning.  A log made of lines joins them with line feeds, without
the empty ones that stand in front: it is all of them joined, and has a field
for each line, exactly if no empty line stands in front of others. -/
theorem logs_join_their_lines_unless_empty_ones_lead (config : Config)
    (step : Nat) :
    (∀ (tracker : Tracker) (changes : List Tracker.Change),
      step < tracker.steps.length →
      (∀ change ∈ changes, change.KeepsLog step) →
      ∃ entry, (tracker.reset.after changes).step? step = some entry ∧
        entry.Collects (changes.filterMap (Tracker.Change.line? step))) ∧
    ∀ controller : Controller, Reachable config controller →
      (controller.starts ≠ [] → Nonempty (Latest config controller)) ∧
      ∀ latest : Latest config controller,
        ∃ since, controller.journal = since ++ latest.before.journal ∧
          ∀ entry, controller.tracker.step? step = some entry →
            entry.Collects
              ((Entry.events since).reverse.filterMap (Event.line? step)) := by
  constructor
  · intro tracker changes inRange keep
    obtain ⟨entry, found⟩ := tracker.exists_step?_after_reset inRange changes
    exact ⟨entry, found, Tracker.collects_after_reset found keep⟩
  · intro controller reachable
    refine ⟨Latest.exists_of_starts reachable, fun latest => ?_⟩
    obtain ⟨since, journal, told, -⟩ := latest.recounts
    refine ⟨since, journal, fun entry found => ?_⟩
    rw [told] at found
    exact Tracker.collects_of_replay found

/-- An empty line between others is kept, and a message makes a line of the log. -/
theorem logs_join_their_lines_unless_empty_ones_lead_of_three :
    (∃ entry, (Tracker.startup.reset.after [.append 0 "a", .advance 1,
        .append 1 "x", .append 0 "", .markFailed 0, .append 0 "b"]).step? 0 =
          some entry ∧
      entry.logs = "a\n\nb" ∧ entry.Collects ["a", "", "b"]) ∧
    ∃ controller,
      (Controller.new ⟨1, 0, .agentServer⟩).run?
          [.begin ⟨"w"⟩ "", .started 0 (.ok ⟨⟨"w"⟩, []⟩), .fire 0 "line"] =
        some controller ∧
      ∃ entry, controller.tracker.step? Tracker.agentStep = some entry ∧
        entry.Collects ["line"] := by
  have collected := logs_join_their_lines_unless_empty_ones_lead ⟨1, 0, .agentServer⟩
  constructor
  · obtain ⟨entry, found, collects⟩ := (collected 0).1 .startup
      [.append 0 "a", .advance 1, .append 1 "x", .append 0 "", .markFailed 0,
        .append 0 "b"] (by decide) (by simp [Tracker.Change.KeepsLog])
    exact ⟨entry, found, collects.joined, collects⟩
  · have ran : (Controller.new ⟨1, 0, .agentServer⟩).run?
        [.begin ⟨"w"⟩ "", .started 0 (.ok ⟨⟨"w"⟩, []⟩), .fire 0 "line"] =
      some _ := rfl
    obtain ⟨-, announced⟩ :=
      (collected Tracker.agentStep).2 _ (Reachable.new.run ran)
    obtain ⟨since, journal, told⟩ := announced
      ⟨_, ⟨"w"⟩, "", [.started 0 (.ok ⟨⟨"w"⟩, []⟩), .fire 0 "line"], .new,
        by simp [Move.isBeginning], rfl⟩
    rw [(List.append_nil since).symm.trans journal.symm] at told
    exact ⟨_, ran, _, rfl, told _ rfl⟩

/-- A line behind an empty one takes its place, and so does a line announced
behind an empty one. -/
theorem leading_empty_line_is_lost :
    (∃ entry, (Tracker.startup.reset.after [.append 0 "", .append 0 "x"]).step? 0 =
        some entry ∧
      entry.logs = "x" ∧ entry.logs ≠ "\n".intercalate ["", "x"]) ∧
    ∃ controller,
      (Controller.new ⟨1, 0, .agentServer⟩).run?
          [.begin ⟨"w"⟩ "", .started 0 (.ok ⟨⟨"w"⟩, []⟩), .fire 0 "",
            .fire 0 "x"] =
        some controller ∧
      (Entry.events controller.journal).reverse.filterMap
          (Event.line? Tracker.agentStep) = ["", "x"] ∧
      ∃ entry, controller.tracker.step? Tracker.agentStep = some entry ∧
        entry.logs = "x" :=
  ⟨⟨_, rfl, rfl, by decide⟩, _, rfl, rfl, _, rfl, rfl⟩

end Controller

end WorkspaceStartup
