import Mathlib.Data.List.Basic
import WorkspaceStartup.Proofs.Channel.Message
import WorkspaceStartup.Proofs.Controller.Position
import WorkspaceStartup.Proofs.Controller.Report

/-!
# The law of handlers

A message can change the position of the progress, the flags and the logs of
the steps, and the reports; `Display` is all of this as one value, together with
the announcements that a step has failed.  Each operation of a handler changes
one part of it.  For a handler of the latest start this gives its law: an error
flag is set just if the body is an error event of the start's workspace and the
handler is not the one for output, and each handler logs in its own step alone.
-/

namespace WorkspaceStartup

/-- The step that a deed announces as failed. -/
def Deed.failedStep? : Deed → Option Nat
  | .announced (.stepFailed _ step) => some step
  | _ => none

/-- A log with one more line. -/
def Step.joined (log line : String) : String :=
  if log.isEmpty then line else log ++ "\n" ++ line

/-- What the messages for a start can change.  The steps that were announced as
failed on behalf of the start, and the reports, have the latest first. -/
@[ext] structure Display where
  current : Nat
  flags : List Bool
  logs : List String
  failedSteps : List Nat
  reports : List Report
  /-- The reports made on behalf of the start. -/
  ownReports : List Report

namespace Display

def advanced (display : Display) (step : Nat) : Display :=
  { display with current := max display.current step }

def logged (display : Display) (step : Nat) (line : String) : Display :=
  { display with
    logs := display.logs.modify step fun log => Step.joined log line }

def flagged (display : Display) (step : Nat) : Display :=
  { display with
    flags := display.flags.set step true
    failedSteps := step :: display.failedSteps }

/-- The display with a report, unless one has been made already. -/
def reporting (display : Display) (already : Bool) (report : Report) :
    Display :=
  if already then display
  else
    { display with
      reports := report :: display.reports
      ownReports := report :: display.ownReports }

/-- One line was added to the log of one step, and no other log has changed. -/
def LogsOne (before after : Display) (step : Nat) (line : String) : Prop :=
  ∃ log, before.logs[step]? = some log ∧
    after.logs = before.logs.set step (Step.joined log line)

theorem LogsOne.of_modify {before after : Display} {step : Nat} {line : String}
    (inRange : step < before.logs.length)
    (logs : after.logs =
      before.logs.modify step fun log => Step.joined log line) :
    before.LogsOne after step line := by
  refine ⟨before.logs[step], List.getElem?_eq_getElem inRange, ?_⟩
  rw [logs, List.modify_eq_set_get _ inRange]
  rfl

variable (display : Display) (already : Bool) (report : Report)

@[simp] theorem current_reporting :
    (display.reporting already report).current = display.current := by
  unfold reporting
  split <;> rfl

@[simp] theorem flags_reporting :
    (display.reporting already report).flags = display.flags := by
  unfold reporting
  split <;> rfl

@[simp] theorem logs_reporting :
    (display.reporting already report).logs = display.logs := by
  unfold reporting
  split <;> rfl

@[simp] theorem failedSteps_reporting :
    (display.reporting already report).failedSteps = display.failedSteps := by
  unfold reporting
  split <;> rfl

end Display

namespace ChannelKind

/-- The body accuses the workspace to a handler that listens for accusations. -/
def Charges (kind : ChannelKind) (body : String) (id : WorkspaceId) : Prop :=
  kind ≠ .output ∧ ChannelMessage.Accuses body id

/-- The step that a handler flags while the progress stands at a step. -/
def blamed : ChannelKind → Nat → Nat
  | agent, _ => Tracker.agentStep
  | status, current | output, current => current

/-- The phase under which a handler reports. -/
def phase : ChannelKind → Phase
  | agent => .agentStart
  | status | output => .workspaceStart

end ChannelKind

/-- What a handler makes of a body. -/
structure Display.Obeys (kind : ChannelKind) (id : WorkspaceId) (body : String)
    (before after : Display) : Prop where
  flags_of_charge : kind.Charges body id →
    kind.blamed before.current < before.flags.length ∧
      after.flags = before.flags.set (kind.blamed before.current) true ∧
      after.failedSteps = kind.blamed before.current :: before.failedSteps
  flags_otherwise : ¬ kind.Charges body id →
    after.flags = before.flags ∧ after.failedSteps = before.failedSteps
  report_of_charge : kind.Charges body id → before.ownReports = [] →
    ∃ text, after.reports = ⟨kind.phase, text⟩ :: before.reports
  reports_otherwise : ¬ kind.Charges body id ∨ before.ownReports ≠ [] →
    after.reports = before.reports
  status : kind = .status → after.current = before.current ∧
    (kind.Charges body id → before.LogsOne after before.current
      (StartFailure.workspaceErrorText (ChannelMessage.parse kind body).error))
  agent : kind = .agent →
    after.current = (if before.current = 0 then 1 else before.current) ∧
      before.LogsOne after Tracker.agentStep
        (ChannelMessage.parse kind body).displayLine
  output : kind = .output → after.current = before.current ∧
    before.LogsOne after before.current
      (ChannelMessage.parse kind body).displayLine

namespace Display

variable {before after : Display} {kind : ChannelKind} {id : WorkspaceId}
  {body : String} {already : Bool} {report : Report}

/-- The report is made just if the start has made none. -/
theorem reports_reporting (report : Report)
    (known : before.ownReports = [] ↔ already = false)
    (same : after.reports = before.reports) :
    (before.ownReports = [] →
      (after.reporting already report).reports = report :: before.reports) ∧
    (before.ownReports ≠ [] →
      (after.reporting already report).reports = before.reports) := by
  constructor
  · intro first
    rw [known.mp first]
    exact congrArg (report :: ·) same
  · intro told
    rw [eq_true_of_ne_false (mt known.mpr told)]
    exact same

/-- A charge that was shown and then reported. -/
theorem Obeys.of_reporting {text : String}
    (accuses : ChannelMessage.Accuses body id) (listens : kind ≠ .output)
    (known : before.ownReports = [] ↔ already = false)
    (same : after.reports = before.reports)
    (inRange : kind.blamed before.current < before.flags.length)
    (flags : after.flags =
      before.flags.set (kind.blamed before.current) true)
    (failedSteps : after.failedSteps =
      kind.blamed before.current :: before.failedSteps)
    (status : kind = .status → after.current = before.current ∧
      before.LogsOne after before.current
        (StartFailure.workspaceErrorText
          (ChannelMessage.parse kind body).error))
    (agent : kind = .agent →
      after.current = (if before.current = 0 then 1 else before.current) ∧
        before.LogsOne after Tracker.agentStep
          (ChannelMessage.parse kind body).displayLine) :
    Obeys kind id body before (after.reporting already ⟨kind.phase, text⟩) := by
  have charge : kind.Charges body id := ⟨listens, accuses⟩
  obtain ⟨first, later⟩ :=
    reports_reporting ⟨kind.phase, text⟩ known same
  constructor
  · intro _
    simp [inRange, flags, failedSteps]
  · exact fun innocent => (innocent charge).elim
  · exact fun _ none => ⟨text, first none⟩
  · rintro (innocent | told)
    · exact (innocent charge).elim
    · exact later told
  · intro isStatus
    obtain ⟨current, logs⟩ := status isStatus
    exact ⟨by simpa using current, fun _ => by simpa [LogsOne] using logs⟩
  · intro isAgent
    simpa [LogsOne] using agent isAgent
  · exact fun isOutput => (listens isOutput).elim

/-- Nothing was charged, so no flag is set and nothing is reported. -/
theorem Obeys.of_innocent (innocent : ¬ kind.Charges body id)
    (flags : after.flags = before.flags)
    (failedSteps : after.failedSteps = before.failedSteps)
    (reports : after.reports = before.reports)
    (status : kind = .status → after.current = before.current)
    (agent : kind = .agent →
      after.current = (if before.current = 0 then 1 else before.current) ∧
        before.LogsOne after Tracker.agentStep
          (ChannelMessage.parse kind body).displayLine)
    (output : kind = .output → after.current = before.current ∧
      before.LogsOne after before.current
        (ChannelMessage.parse kind body).displayLine) :
    Obeys kind id body before after where
  flags_of_charge charge := (innocent charge).elim
  flags_otherwise _ := ⟨flags, failedSteps⟩
  report_of_charge charge := (innocent charge).elim
  reports_otherwise _ := reports
  status isStatus := ⟨status isStatus, fun charge => (innocent charge).elim⟩
  agent := agent
  output := output

end Display

namespace Step

theorem map_modify {α : Type} {project : Step → α} {change : Step → Step}
    {image : α → α}
    (commutes : ∀ entry, project (change entry) = image (project entry))
    (steps : List Step) (step : Nat) :
    (steps.modify step change).map project =
      (steps.map project).modify step image := by
  apply List.ext_getElem?
  intro position
  by_cases here : step = position
  · simp [here, Function.comp_def, commutes]
  · simp [here]

theorem map_modify_of_kept {α : Type} {project : Step → α}
    {change : Step → Step}
    (keeps : ∀ entry, project (change entry) = project entry)
    (steps : List Step) (step : Nat) :
    (steps.modify step change).map project = steps.map project := by
  have same (entry : Step) : project (change entry) = id (project entry) :=
    keeps entry
  rw [map_modify same, List.modify_id]

end Step

namespace Controller

variable {config : Config} {controller : Controller} {start step : Nat}
  {id : WorkspaceId} {entry : Start} {attempt : Attempt} {handler : Handler}
  {line body : String}

/-- What is shown on behalf of a start. -/
def display (controller : Controller) (start : Nat) : Display where
  current := controller.tracker.current
  flags := controller.tracker.steps.map (·.failed)
  logs := controller.tracker.steps.map (·.logs)
  failedSteps := Entry.select Deed.failedStep? start controller.journal
  reports := Entry.reports controller.journal
  ownReports := Entry.select Deed.report? start controller.journal

/-! ## One operation -/

theorem length_logs :
    (controller.display start).logs.length = controller.tracker.steps.length :=
  List.length_map _

theorem display_logLine
    (inRange : step < (controller.display start).logs.length) :
    (controller.logLine start id step line).display start =
      (controller.display start).logged step line := by
  rw [length_logs] at inRange
  have added : controller.tracker.append step line = some _ :=
    Tracker.update_eq_some_iff.mpr ⟨inRange, rfl⟩
  simp only [logLine, added]
  refine Display.ext rfl ?_ ?_ (Entry.select_cons_of_none rfl) rfl
    (Entry.select_cons_of_none rfl)
  · refine Step.map_modify_of_kept ?_ _ _
    exact fun _ => rfl
  · refine Step.map_modify ?_ _ _
    exact fun _ => rfl

theorem display_markFailed (id : WorkspaceId)
    (inRange : step < (controller.display start).logs.length) :
    (controller.markFailed start id step).display start =
      (controller.display start).flagged step := by
  rw [length_logs] at inRange
  have marked : controller.tracker.markFailed step = some _ :=
    Tracker.update_eq_some_iff.mpr ⟨inRange, rfl⟩
  simp only [markFailed, marked]
  refine Display.ext rfl ?_ ?_ ?_ rfl (Entry.select_cons_of_none rfl)
  · refine Eq.trans ?_ (List.set_eq_modify true step _).symm
    refine Step.map_modify ?_ _ _
    exact fun _ => rfl
  · refine Step.map_modify_of_kept ?_ _ _
    exact fun _ => rfl
  · exact (Entry.select_cons _).trans (if_pos rfl)

theorem display_advance (id : WorkspaceId)
    (inRange : step < (controller.display start).logs.length) :
    (controller.advance start id step).display start =
      (controller.display start).advanced step := by
  rw [length_logs] at inRange
  have current : (controller.advance start id step).tracker.current = _ :=
    current_advance inRange
  revert current
  unfold advance
  split
  · next moved =>
      obtain ⟨-, -, rfl⟩ := Tracker.advance_eq_some_iff.mp moved
      intro current
      exact Display.ext current rfl rfl (Entry.select_cons_of_none rfl) rfl
        (Entry.select_cons_of_none rfl)
  · intro current
    exact Display.ext current rfl rfl rfl rfl rfl

theorem display_report (report : Report)
    (found : controller.starts[start]? = some entry) :
    (controller.report start report).display start =
      (controller.display start).reporting entry.reported report := by
  simp only [Controller.report, found, Display.reporting]
  split
  · rfl
  · refine Display.ext rfl rfl rfl (Entry.select_cons_of_none rfl) rfl ?_
    exact (Entry.select_cons _).trans (if_pos rfl)

@[simp] theorem starts_advance :
    (controller.advance start id step).starts = controller.starts := by
  unfold advance
  split <;> rfl

@[simp] theorem starts_logLine :
    (controller.logLine start id step line).starts = controller.starts := by
  unfold logLine
  split <;> rfl

@[simp] theorem starts_markFailed :
    (controller.markFailed start id step).starts = controller.starts := by
  unfold markFailed
  split <;> rfl

/-! ## One message -/

theorem display_onStatus (owned : controller.owns entry.attempt = true)
    (found : controller.starts[start]? = some entry)
    (inRange : controller.tracker.current <
      (controller.display start).logs.length)
    (accuses : ChannelMessage.Accuses body entry.attempt.workspaceId) :
    let shown := StartFailure.workspaceErrorText
      (ChannelMessage.parse .status body).error
    (controller.onStatus start entry.attempt body).display start =
      (((controller.display start).flagged controller.tracker.current).logged
        controller.tracker.current shown).reporting entry.reported
          ⟨.workspaceStart, shown⟩ := by
  have isError := (ChannelMessage.isErrorFor_parse_iff .status).mpr
    accuses
  have marked := display_markFailed entry.attempt.workspaceId inRange
  simp only [onStatus, isError, owned, Bool.and_self, if_true, flagCurrent]
  rw [display_report _ (by simpa using found), display_logLine, marked]
  rw [marked]
  exact inRange

theorem onStatus_eq_self
    (excuses : ¬ ChannelMessage.Accuses body attempt.workspaceId) :
    controller.onStatus start attempt body = controller := by
  have noError := mt (ChannelMessage.isErrorFor_parse_iff .status).mp
    excuses
  simp only [onStatus, noError, Bool.false_and, Bool.false_eq_true, if_false]

/-- A message of the agent is logged in the agent's step, accusation or not. -/
theorem display_onAgent_logged (id : WorkspaceId) (line : String)
    (inRange : Tracker.agentStep < (controller.display start).logs.length) :
    ((controller.advance start id Tracker.agentStep).logLine start id
        Tracker.agentStep line).display start =
      ((controller.display start).advanced Tracker.agentStep).logged
        Tracker.agentStep line := by
  have moved := display_advance id inRange
  rw [display_logLine, moved]
  rw [moved]
  exact inRange

theorem display_onAgent_of_not (owned : controller.owns attempt = true)
    (inRange : Tracker.agentStep < (controller.display start).logs.length)
    (excuses : ¬ ChannelMessage.Accuses body attempt.workspaceId) :
    (controller.onAgent start attempt body).display start =
      ((controller.display start).advanced Tracker.agentStep).logged
        Tracker.agentStep (ChannelMessage.parse .agent body).displayLine := by
  have noError := mt (ChannelMessage.isErrorFor_parse_iff .agent).mp
    excuses
  simp only [onAgent, noError, owned, if_true, Bool.false_eq_true, if_false]
  exact display_onAgent_logged _ _ inRange

theorem display_onAgent (owned : controller.owns entry.attempt = true)
    (found : controller.starts[start]? = some entry)
    (inRange : Tracker.agentStep < (controller.display start).logs.length)
    (accuses : ChannelMessage.Accuses body entry.attempt.workspaceId) :
    let message := ChannelMessage.parse .agent body
    (controller.onAgent start entry.attempt body).display start =
      ((((controller.display start).advanced Tracker.agentStep).logged
        Tracker.agentStep message.displayLine).flagged
          Tracker.agentStep).reporting entry.reported
            ⟨.agentStart, Phase.agentStart.title ++ ": " ++
              message.error.getD message.displayLine⟩ := by
  have isError := (ChannelMessage.isErrorFor_parse_iff .agent).mpr
    accuses
  have logged := display_onAgent_logged entry.attempt.workspaceId
    (ChannelMessage.parse .agent body).displayLine inRange
  simp only [onAgent, isError, owned, if_true]
  rw [display_report _ (by simpa using found), display_markFailed, logged]
  rw [logged]
  simpa [Display.logged, Display.advanced] using inRange

theorem display_onOutput (owned : controller.owns attempt = true)
    (inRange : controller.tracker.current <
      (controller.display start).logs.length) :
    (controller.onOutput start attempt body).display start =
      (controller.display start).logged controller.tracker.current
        (ChannelMessage.parse .output body).displayLine := by
  simp only [onOutput, owned, if_true]
  exact display_logLine inRange

/-! ## The law -/

/-- The start owns the progress of a startup, and its record tells whether it
has made a report. -/
structure Presents (controller : Controller) (start : Nat) (entry : Start) :
    Prop where
  found : controller.starts[start]? = some entry
  owned : controller.owns entry.attempt = true
  reported : (controller.display start).ownReports = [] ↔
    entry.reported = false
  flags : (controller.display start).flags.length = 3
  logs : (controller.display start).logs.length = 3
  current : controller.tracker.current < 3

theorem Reachable.presents (reachable : Reachable config controller)
    (found : controller.starts[start]? = some entry)
    (latest : start + 1 = controller.starts.length) :
    controller.Presents start entry where
  found := found
  owned := (reachable.sound.numbered.owns_iff ⟨entry, found, rfl⟩).mpr latest
  reported := by
    have told := (reachable.accounted.told found).reports
    rw [display, ← List.length_eq_zero_iff, told]
    cases entry.reported <;> simp
  flags := (List.length_map _).trans reachable.sound.tracker.length
  logs := length_logs.trans reachable.sound.tracker.length
  current := by
    have current := reachable.sound.tracker.current
    rwa [reachable.sound.tracker.length] at current

namespace Presents

theorem obeys_onStatus (presents : controller.Presents start entry)
    (body : String) :
    Display.Obeys .status entry.attempt.workspaceId body
      (controller.display start)
      ((controller.onStatus start entry.attempt body).display start) := by
  by_cases accuses : ChannelMessage.Accuses body entry.attempt.workspaceId
  · rw [display_onStatus presents.owned presents.found
      (presents.logs ▸ presents.current) accuses]
    refine .of_reporting accuses nofun presents.reported rfl
      (presents.flags ▸ presents.current) rfl rfl ?_ nofun
    exact fun _ => ⟨rfl, .of_modify (presents.logs ▸ presents.current) rfl⟩
  · rw [onStatus_eq_self accuses]
    refine .of_innocent (fun charge => accuses charge.2) rfl rfl rfl ?_ nofun
      nofun
    exact fun _ => rfl

theorem max_agentStep (current : Nat) :
    max current Tracker.agentStep = if current = 0 then 1 else current := by
  unfold Tracker.agentStep
  split <;> omega

theorem obeys_onAgent (presents : controller.Presents start entry)
    (body : String) :
    Display.Obeys .agent entry.attempt.workspaceId body
      (controller.display start)
      ((controller.onAgent start entry.attempt body).display start) := by
  have inRange :
      Tracker.agentStep < (controller.display start).logs.length := by
    rw [presents.logs]
    decide
  by_cases accuses : ChannelMessage.Accuses body entry.attempt.workspaceId
  · rw [display_onAgent presents.owned presents.found inRange accuses]
    refine .of_reporting accuses nofun presents.reported rfl ?_ rfl rfl nofun ?_
    · exact presents.flags.trans presents.logs.symm ▸ inRange
    · exact fun _ => ⟨max_agentStep _, .of_modify inRange rfl⟩
  · rw [display_onAgent_of_not presents.owned inRange accuses]
    refine .of_innocent (fun charge => accuses charge.2) rfl rfl rfl nofun ?_
      nofun
    exact fun _ => ⟨max_agentStep _, .of_modify inRange rfl⟩

theorem obeys_onOutput (presents : controller.Presents start entry)
    (body : String) :
    Display.Obeys .output entry.attempt.workspaceId body
      (controller.display start)
      ((controller.onOutput start entry.attempt body).display start) := by
  have inRange : controller.tracker.current <
      (controller.display start).logs.length :=
    presents.logs ▸ presents.current
  rw [display_onOutput presents.owned inRange]
  refine .of_innocent (fun charge => charge.1 rfl) rfl rfl rfl nofun nofun ?_
  exact fun _ => ⟨rfl, .of_modify inRange rfl⟩

end Presents

/-- What a handler of the latest start makes of any body.  An error flag is set,
and a first report made, just if the body is an error event of the workspace and
the handler is one for status or for the agent; the status handler does nothing
else at all, and the others add the line of the message to one log. -/
theorem handlers_obey_their_law (handler : Handler)
    (reachable : Reachable config controller)
    (found : controller.starts[handler.start]? = some entry)
    (latest : handler.start + 1 = controller.starts.length) (body : String) :
    Display.Obeys handler.kind entry.attempt.workspaceId body
        (controller.display handler.start)
        ((controller.handle handler body).display handler.start) ∧
      (handler.kind = .status →
        ¬ ChannelMessage.Accuses body entry.attempt.workspaceId →
        controller.handle handler body = controller) := by
  obtain ⟨start, kind⟩ := handler
  have presents := reachable.presents found latest
  cases kind with
  | status =>
      simp only [handle, found]
      exact ⟨presents.obeys_onStatus body, fun _ => onStatus_eq_self⟩
  | agent =>
      simp only [handle, found]
      refine ⟨presents.obeys_onAgent body, fun isStatus => ?_⟩
      cases isStatus
  | output =>
      simp only [handle, found]
      refine ⟨presents.obeys_onOutput body, fun isStatus => ?_⟩
      cases isStatus

/-- An error event of the workspace that its agent sends as a quoted text. -/
theorem handlers_obey_their_law_on_error_of_agent :
    let body := (Json.text (Json.object
      [("eventType", .text "ERROR"), ("workspaceId", .text "w")]).print).print
    ∃ controller,
      (Controller.new ⟨1, 0, .agentServer⟩).run?
          [.begin ⟨"w"⟩ "", .started 0 (.ok ⟨⟨"w"⟩, []⟩)] = some controller ∧
        ChannelMessage.Accuses body ⟨"w"⟩ ∧
        ((controller.handle ⟨0, .agent⟩ body).display 0).flags =
          [false, true, false] ∧
        ((controller.handle ⟨0, .agent⟩ body).display 0).current = 1 := by
  intro body
  have ran : (Controller.new ⟨1, 0, .agentServer⟩).run?
      [.begin ⟨"w"⟩ "", .started 0 (.ok ⟨⟨"w"⟩, []⟩)] = some _ := rfl
  have accuses : ChannelMessage.Accuses body ⟨"w"⟩ := by
    refine ⟨[("eventType", .text "ERROR"), ("workspaceId", .text "w")],
      .inr ⟨_, ChannelMessage.parse?_quoted _, ?_⟩, rfl, rfl⟩
    exact Json.parse?_print (by simp [Json.Whole, Json.WholeMembers])
      (by decide)
  have law := (handlers_obey_their_law ⟨0, .agent⟩ (Reachable.new.run ran) rfl
    rfl body).1
  exact ⟨_, ran, accuses, (law.flags_of_charge ⟨by decide, accuses⟩).2.1,
    (law.agent rfl).1⟩

end Controller

end WorkspaceStartup
