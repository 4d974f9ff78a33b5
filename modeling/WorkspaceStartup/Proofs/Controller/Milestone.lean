import WorkspaceStartup.Proofs.Controller.Return

/-!
# Milestones

A start passes a milestone when a step is reached, when the link returns a
connection or the connection is closed, and when the call returns a success.
Only two kinds of moves do so: a message of the agent, and the end of an opening
that has succeeded.  `passes_of_step?` says what these do; every other move
leaves the milestones alone (`Calm`), unless it begins a start.
-/

namespace WorkspaceStartup

/-- The deed announces that a step is reached, or it is about a connection. -/
def Deed.isMilestone : Deed → Bool
  | .announced (.stepAdvanced _ _) | .connected _ | .closed _ => true
  | _ => false

/-- The handler to which the message of a move is delivered. -/
def Move.handler? (controller : Controller) : Move → Option Handler
  | .publish channel _ => controller.bus.handler? channel
  | .fire position _ => controller.bus.history[position]?
  | _ => none

/-- The start to which the link returns a connection with the move. -/
def Move.connects? : Move → Option Nat
  | .linked start (.ok _) => some start
  | _ => none

/-- A message begins no start, and the link returns nothing with it. -/
theorem Move.plain_of_handler? {controller : Controller} {move : Move}
    {handler : Handler} (heard : move.handler? controller = some handler) :
    move.isBeginning = false ∧ move.connects? = none := by
  cases move with
  | publish | fire => exact ⟨rfl, rfl⟩
  | begin | drop | started | watched | fetched | linked | woken | withdrawn
  | tick => cases heard

namespace Controller

variable {config : Config} {controller middle next : Controller}
  {start other : Nat} {attempt : Attempt} {id : WorkspaceId} {move : Move}

/-- No milestone is passed between two states. -/
structure Calm (before after : Controller) : Prop where
  position : after.tracker.current = before.tracker.current
  journal : ∃ added, after.journal = added ++ before.journal ∧
    ∀ item ∈ added, item.deed.isMilestone = false
  calls : ∀ {start}, after.call? start = some (.returned (.ok ())) →
    before.call? start = some (.returned (.ok ()))

namespace Calm

theorem refl (controller : Controller) : Calm controller controller where
  position := rfl
  journal := ⟨[], rfl, nofun⟩
  calls := fun returned => returned

theorem trans (first : Calm controller middle) (second : Calm middle next) :
    Calm controller next where
  position := second.position.trans first.position
  journal := by
    obtain ⟨earlier, firstJournal, firstPlain⟩ := first.journal
    obtain ⟨later, secondJournal, secondPlain⟩ := second.journal
    refine ⟨later ++ earlier, ?_, ?_⟩
    · rw [secondJournal, firstJournal, List.append_assoc]
    · intro item member
      rcases List.mem_append.mp member with isLater | isEarlier
      · exact secondPlain item isLater
      · exact firstPlain item isEarlier
  calls := fun returned => first.calls (second.calls returned)

theorem enter {deed : Deed} (plain : deed.isMilestone = false) :
    Calm controller (controller.enter start deed) :=
  { refl controller with
    journal := by
      refine ⟨[⟨start, controller.clock, deed⟩], rfl, ?_⟩
      exact List.forall_mem_singleton.mpr plain }

theorem setCall {call : Call} (unsuccessful : call ≠ .returned (.ok ())) :
    Calm controller (controller.setCall start call) :=
  { refl controller with
    calls := by
      intro other returned
      rw [call?_setCall] at returned
      split at returned
      · obtain ⟨entry, -, same⟩ := Option.map_eq_some_iff.mp returned
        exact (unsuccessful same).elim
      · exact returned }

theorem wait (stage : Stage) :
    Calm controller (controller.setCall start (.pending stage)) := by
  apply setCall
  intro equality
  cases equality

theorem giveUp (failure : StartFailure) :
    Calm controller
      (controller.setCall start (.returned (.error failure))) := by
  apply setCall
  intro equality
  cases equality

theorem putAttempt (state : Attempt × Bus Handler) :
    Calm controller (controller.putAttempt start state) :=
  { refl controller with
    calls := by
      intro other returned
      rwa [call?_putAttempt] at returned }

theorem teardown : Calm controller (controller.teardown start) := by
  cases found : controller.starts[start]? with
  | none =>
      simp only [Controller.teardown, found]
      exact refl controller
  | some entry =>
      rw [teardown_eq found]
      exact putAttempt _

/-- A change of a step and its announcement, while the position stays. -/
theorem shown {step : Nat} {change : Step → Step} {tracker : Tracker}
    {event : Event} (changed : controller.tracker.update step change =
      some tracker)
    (plain : (Deed.announced event).isMilestone = false) :
    Calm controller
      ({ controller with tracker := tracker }.announce start event) := by
  obtain ⟨-, rfl⟩ := Tracker.update_eq_some_iff.mp changed
  refine trans ?_ (enter plain)
  exact { refl controller with position := rfl }

theorem markFailed (step : Nat) :
    Calm controller (controller.markFailed start id step) := by
  unfold Controller.markFailed
  split
  · next mark => exact shown mark rfl
  · exact refl controller

theorem logLine (step : Nat) (line : String) :
    Calm controller (controller.logLine start id step line) := by
  unfold Controller.logLine
  split
  · next added => exact shown added rfl
  · exact refl controller

theorem replaceLog (step : Nat) (line : String) :
    Calm controller (controller.replaceLog start id step line) := by
  unfold Controller.replaceLog
  split
  · next replaced => exact shown replaced rfl
  · exact refl controller

theorem flagCurrent (line : String) :
    Calm controller (controller.flagCurrent start id line) :=
  (markFailed _).trans (logLine _ line)

theorem flagFailure (failure : StartFailure) :
    Calm controller (controller.flagFailure start id failure) := by
  unfold Controller.flagFailure
  split
  · exact (markFailed _).trans (replaceLog _ rejectedLine)
  · exact flagCurrent _

theorem report (report : Report) :
    Calm controller (controller.report start report) := by
  unfold Controller.report
  split
  · exact refl controller
  · split
    · exact refl controller
    · have flagged : Calm controller (controller.changeStart start
          fun entry => { entry with reported := true }) :=
        { refl controller with
          calls := by
            intro other returned
            have same : (controller.changeStart start fun entry =>
                { entry with reported := true }).call? other =
                controller.call? other := by
              refine map_changeStart (·.call) _ ?_ controller start other
              exact fun _ => rfl
            rwa [same] at returned }
      exact flagged.trans (enter rfl)

/-! ## Turns -/

theorem fail (failure : StartFailure) :
    Calm controller (controller.fail start attempt failure) := by
  simp only [Controller.fail]
  split
  · exact teardown.trans (giveUp _)
  · refine trans ?_ (giveUp _)
    refine trans ?_ (enter rfl)
    exact (teardown.trans (flagFailure failure)).trans (report _)

theorem takeTurn {turn : Reconnect.Turn}
    (offline : ∀ url, turn ≠ .connected url) :
    Calm controller (controller.takeTurn start attempt turn) := by
  cases turn with
  | opening run => exact ((enter rfl).trans (enter rfl)).trans (wait _)
  | waiting run => exact wait _
  | connected url => exact (offline url rfl).elim
  | exhausted attempts last =>
      exact teardown.trans (fail (.ofConnect (.exhausted attempts last)))
  | cancelled =>
      change Calm controller
        (controller.fail start attempt (.ofConnect .cancelled))
      exact fail _

theorem proceed (run : Reconnect) (current : Bool) :
    Calm controller
      (controller.takeTurn start attempt (run.proceed current)) := by
  apply takeTurn
  intro url equality
  cases current with
  | true => cases equality
  | false => cases equality

theorem settle_of_error (run : Reconnect) (failure : LinkFailure) :
    Calm controller
      (controller.takeTurn start attempt (run.settle (.error failure))) := by
  apply takeTurn
  intro url equality
  simp only [Reconnect.settle] at equality
  split at equality
  · cases equality
  · cases equality

theorem onStarted (answer : Except ControlFailure StartResult) :
    Calm controller (controller.onStarted start attempt answer) := by
  cases answer with
  | error cause => exact fail _
  | ok result =>
      simp only [Controller.onStarted]
      split
      · exact fail _
      · next accepted =>
          obtain ⟨-, rfl⟩ := subscribeChannels?_eq_some_iff.mp accepted
          refine trans ?_ (wait _)
          exact ((putAttempt _).trans (enter rfl)).trans (enter rfl)

theorem onWatched (answer : Except ControlFailure StatusChange) :
    Calm controller (controller.onWatched start attempt answer) := by
  cases answer with
  | error cause => exact fail _
  | ok change =>
      simp only [Controller.onWatched]
      split
      · exact fail _
      · exact (enter rfl).trans (wait _)

theorem onFetched (answer : Except ControlFailure Workspace) :
    Calm controller (controller.onFetched start attempt answer) := by
  cases answer with
  | error cause => exact fail _
  | ok workspace =>
      simp only [Controller.onFetched]
      split
      · split
        · exact proceed _ true
        · exact fail _
      · exact fail _

/-! ## Messages -/

theorem onStatus (body : String) :
    Calm controller (controller.onStatus start attempt body) := by
  simp only [Controller.onStatus]
  split
  · exact (flagCurrent _).trans (report _)
  · exact refl controller

theorem onOutput (body : String) :
    Calm controller (controller.onOutput start attempt body) := by
  simp only [Controller.onOutput]
  split
  · exact logLine _ _
  · exact refl controller

/-- A message of the agent first reaches the agent's step. -/
theorem onAgent (owned : controller.owns attempt = true) (body : String) :
    Calm (controller.advance start attempt.workspaceId Tracker.agentStep)
      (controller.onAgent start attempt body) := by
  simp only [Controller.onAgent, owned, if_true]
  split
  · exact ((logLine _ _).trans (markFailed _)).trans (report _)
  · exact logLine _ _

end Calm

/-! ## The end of an opening -/

@[simp] theorem tracker_teardown (start : Nat) :
    (controller.teardown start).tracker = controller.tracker := by
  unfold teardown
  split
  · rfl
  · rfl

@[simp] theorem stamp_teardown (start : Nat) :
    (controller.teardown start).stamp = controller.stamp := by
  unfold teardown
  split
  · rfl
  · rfl

@[simp] theorem journal_teardown (start : Nat) :
    (controller.teardown start).journal = controller.journal := by
  unfold teardown
  split
  · rfl
  · rfl

@[simp] theorem call?_teardown (start other : Nat) :
    (controller.teardown start).call? other = controller.call? other := by
  cases found : controller.starts[start]? with
  | none => simp only [teardown, found]
  | some entry =>
      rw [teardown_eq found]
      exact call?_putAttempt _ other

/-- The link has returned a connection, the channels of the start are given up,
and the connection is closed. -/
def linked (controller : Controller) (start : Nat) (url : String) :
    Controller :=
  ((controller.enter start (.connected url)).teardown start).enter start
    (.closed url)

theorem owns_linked (start : Nat) (url : String) (attempt : Attempt) :
    (controller.linked start url).owns attempt = controller.owns attempt := by
  have sameStamp : (controller.linked start url).stamp = controller.stamp :=
    stamp_teardown start
  rw [owns, sameStamp, owns]

theorem takeTurn_connected (start : Nat) (attempt : Attempt) (url : String) :
    controller.takeTurn start attempt (.connected url) =
      if controller.owns attempt then
        ((((controller.linked start url).advance start attempt.workspaceId
          Tracker.startedStep).announce start
            (.agentConnected attempt.workspaceId url)).announce start
              (.startSucceeded attempt.workspaceId)).setCall start
                (.returned (.ok ()))
      else
        ((controller.linked start url).teardown start).setCall start
          (.returned (.error .superseded)) := by
  rw [← owns_linked start url]
  rfl

theorem call?_setCall_eq_map (call : Call) (other : Nat) :
    (controller.setCall start call).call? other =
      if start = other then (controller.call? other).map fun _ => call
      else controller.call? other := by
  rw [call?_setCall, call?, Option.map_map]
  rfl

@[simp] theorem call?_advance (step other : Nat) :
    (controller.advance start id step).call? other =
      controller.call? other := by
  unfold advance
  split
  · rfl
  · rfl

/-- The call of an owner of the progress returns a success, that of any other
start does not. -/
theorem call?_takeTurn_connected (url : String) (other : Nat) :
    (controller.takeTurn start attempt (.connected url)).call? other =
      if start = other then
        (controller.call? other).map fun _ => .returned
          (if controller.owns attempt then .ok () else .error .superseded)
      else controller.call? other := by
  have same : (controller.linked start url).call? other =
      controller.call? other :=
    call?_teardown start other
  rw [takeTurn_connected]
  split
  · have advanced : ((controller.linked start url).advance start
        attempt.workspaceId Tracker.startedStep).call? other =
        controller.call? other :=
      (call?_advance _ other).trans same
    rw [← advanced]
    exact call?_setCall_eq_map _ other
  · have emptied : ((controller.linked start url).teardown start).call? other =
        controller.call? other :=
      (call?_teardown start other).trans same
    rw [← emptied]
    exact call?_setCall_eq_map _ other

/-! ## Moves -/

/-- What a move does about milestones. -/
inductive Passes (controller : Controller) : Move → Controller → Prop
  | begun (id : WorkspaceId) (environment : String) :
      Passes controller (.begin id environment)
        (controller.begin id environment)
  | calm {move : Move} {next : Controller}
      (continues : move.isBeginning = false) (offline : move.connects? = none)
      (calm : Calm controller next) : Passes controller move next
  | told {move : Move} {start : Nat} {entry : Start} {next : Controller}
      (heard : move.handler? controller = some ⟨start, .agent⟩)
      (found : controller.starts[start]? = some entry)
      (owned : controller.owns entry.attempt = true)
      (calm : Calm (controller.advance start entry.attempt.workspaceId
        Tracker.agentStep) next) : Passes controller move next
  | connected {start : Nat} {entry : Start} {run : Reconnect}
      (found : controller.starts[start]? = some entry)
      (pending : entry.call = .pending (.opening run)) :
      Passes controller (.linked start (.ok ()))
        (controller.takeTurn start entry.attempt (.connected run.url))

theorem passes_handle {handler : Handler}
    (heard : move.handler? controller = some handler) (body : String) :
    Passes controller move (controller.handle handler body) := by
  obtain ⟨continues, offline⟩ := Move.plain_of_handler? heard
  obtain ⟨start, kind⟩ := handler
  cases found : controller.starts[start]? with
  | none =>
      simp only [handle, found]
      exact .calm continues offline (.refl controller)
  | some entry =>
      simp only [handle, found]
      cases kind with
      | status => exact .calm continues offline (.onStatus body)
      | output => exact .calm continues offline (.onOutput body)
      | agent =>
          by_cases owned : controller.owns entry.attempt = true
          · exact .told heard found owned (.onAgent owned body)
          · simp only [onAgent, owned]
            exact .calm continues offline (.refl controller)

theorem passes_of_step? (taken : controller.step? move = some next) :
    Passes controller move next := by
  cases move with
  | begin id environment =>
      cases taken
      exact .begun id environment
  | tick milliseconds =>
      cases taken
      have same := Calm.refl controller
      exact .calm rfl rfl ⟨rfl, same.journal, same.calls⟩
  | publish channel body =>
      cases taken
      unfold publish
      split
      · next handler served =>
          have heard : Move.handler? controller (.publish channel body) =
              some handler := served
          exact passes_handle heard body
      · exact .calm rfl rfl (.refl controller)
  | fire position body =>
      cases taken
      unfold fire
      split
      · next handler known =>
          have heard : Move.handler? controller (.fire position body) =
              some handler := known
          exact passes_handle heard body
      · exact .calm rfl rfl (.refl controller)
  | drop start =>
      simp only [step?, bind, Option.bind_eq_some_iff] at taken
      obtain ⟨waiting, -, equality⟩ := taken
      cases equality
      refine .calm rfl rfl (.setCall ?_)
      intro impossible
      cases impossible
  | started start answer =>
      simp only [step?] at taken
      split at taken
      · cases taken
        exact .calm rfl rfl (.onStarted answer)
      · cases taken
  | watched start answer =>
      simp only [step?] at taken
      split at taken
      · cases taken
        exact .calm rfl rfl (.onWatched answer)
      · cases taken
  | fetched start answer =>
      simp only [step?] at taken
      split at taken
      · cases taken
        exact .calm rfl rfl (.onFetched answer)
      · cases taken
  | linked start outcome =>
      simp only [step?] at taken
      split at taken
      · next attempt run pending =>
          cases taken
          obtain ⟨entry, found, rfl, call⟩ := pending?_eq_some_iff.mp pending
          cases outcome with
          | ok => exact .connected found call
          | error failure => exact .calm rfl rfl (.settle_of_error run failure)
      · cases taken
  | woken start =>
      simp only [step?] at taken
      split at taken
      · split at taken
        · cases taken
          exact .calm rfl rfl (.proceed _ _)
        · cases taken
      · cases taken
  | withdrawn start =>
      simp only [step?] at taken
      split at taken
      · cases taken
      · split at taken
        · cases taken
          exact .calm rfl rfl (.fail _)
        · cases taken
      · cases taken

end Controller

end WorkspaceStartup
