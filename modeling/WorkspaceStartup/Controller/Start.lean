import WorkspaceStartup.Controller.Basic

/-!
# The course of a start

A start asks the service to start its workspace, subscribes the channels that
the answer advertises, waits until the workspace runs or has failed, reads its
details and connects to the agent.  A later start supersedes it: its channels
are given up, and whatever it does afterwards leaves the progress alone.
-/

namespace WorkspaceStartup.Controller

/-- The only log of a step in which the service rejected the start. -/
def rejectedLine : String := "Unable to start this workspace."

/-- The channel of the agent of a workspace. -/
def agentChannel (id : WorkspaceId) : String :=
  "workspace:" ++ id.text ++ ":ext-server:output"

/-- Withdraws the active attempt and announces that it is superseded. -/
def supersede (controller : Controller) : Controller :=
  match controller.active with
  | none => controller
  | some start =>
      match controller.starts[start]? with
      | none => controller
      | some entry =>
          (controller.invalidate start).announce start
            (.superseded entry.attempt.workspaceId entry.attempt.generation)

/-- Begins a start of a workspace, which supersedes the one before. -/
def begin (controller : Controller) (id : WorkspaceId) (environment : String) :
    Controller :=
  let generation := controller.generation + 1
  -- The progress is the new start's before the old attempt is withdrawn.
  let cleared :=
    { controller with
      generation := generation
      stamp := generation
      tracker := controller.tracker.reset }.supersede
  let start := cleared.starts.length
  let entry : Start :=
    { attempt := .new id generation cleared.config.budget
      environment := environment
      reported := false
      call := .pending .starting }
  { cleared with
    starts := cleared.starts ++ [entry]
    active := some start }
    |>.announce start (.recentUpdated id)
    |>.announce start (.listRefresh id)
    |>.enter start (.askedStart id environment)

/-- Shows a failure in the way that its cause asks for. -/
def flagFailure (controller : Controller) (start : Nat) (id : WorkspaceId)
    (failure : StartFailure) : Controller :=
  match failure with
  | .requestRejected _ => controller.flagAndReplace start id rejectedLine
  | _ => controller.flagCurrent start id failure.shown

/-- Ends the call of a start with a failure. -/
def fail (controller : Controller) (start : Nat) (attempt : Attempt)
    (failure : StartFailure) : Controller :=
  let quiet := controller.teardown start
  -- A start that has lost the progress leaves it alone.
  if failure.isSuperseded || !quiet.owns attempt then
    quiet.setCall start (.returned (.error .superseded))
  else
    let id := attempt.workspaceId
    (quiet.flagFailure start id failure).report start
        ⟨failure.phase, failure.shown⟩
      |>.announce start (.startFailed id failure.phase failure.shown)
      |>.setCall start (.returned (.error failure))

/-- Ends the call of a start that has connected to the agent. -/
def succeed (controller : Controller) (start : Nat) (attempt : Attempt)
    (url : String) : Controller :=
  -- The connection has only shown that the agent answers.
  let closed := controller.enter start (.closed url)
  let id := attempt.workspaceId
  if closed.owns attempt then
    closed.advance start id Tracker.startedStep
      |>.announce start (.agentConnected id url)
      |>.announce start (.startSucceeded id)
      |>.setCall start (.returned (.ok ()))
  else
    (closed.teardown start).setCall start (.returned (.error .superseded))

/-- Takes a turn of the connection run of a start. -/
def takeTurn (controller : Controller) (start : Nat) (attempt : Attempt) :
    Reconnect.Turn → Controller
  | .opening run =>
      controller.announce start
          (.connectAttempted attempt.workspaceId run.made run.remaining)
        |>.enter start (.opened run.url)
        |>.setCall start (.pending (.opening run))
  | .waiting run =>
      controller.setCall start (.pending
        (.waiting run
          (Reconnect.wakeTime controller.clock controller.config.retryDelay)))
  | .connected url =>
      ((controller.enter start (.connected url)).teardown start).succeed start
        attempt url
  | .exhausted attempts last =>
      (controller.teardown start).fail start attempt
        (.ofConnect (.exhausted attempts last))
  | .cancelled => controller.fail start attempt (.ofConnect .cancelled)

/-- The channels and roles that a start subscribes, in order. -/
def advertised (start : Nat) (id : WorkspaceId) (links : List Link) :
    List (String × Handler) :=
  let status := Link.channelFor? links Relation.statusChannel
  let output := Link.channelFor? links Relation.outputChannel
  (status.map fun channel => (channel, Handler.mk start .status)).toList ++
    [(agentChannel id, Handler.mk start .agent)] ++
    (output.map fun channel => (channel, Handler.mk start .output)).toList

/-- Subscribes the advertised channels, or none when the attempt is superseded. -/
def subscribeChannels? (controller : Controller) (start : Nat)
    (attempt : Attempt) (links : List Link) : Option Controller :=
  if controller.isCurrent attempt then
    let (attempt, bus) :=
      attempt.subscribeEach controller.bus
        (advertised start attempt.workspaceId links)
    some { controller.changeStart start fun entry =>
      { entry with attempt := attempt } with bus := bus }
  else none

/-- The service has answered the request to start. -/
def onStarted (controller : Controller) (start : Nat) (attempt : Attempt)
    (answer : Except ControlFailure StartResult) : Controller :=
  match answer with
  | .error cause => controller.fail start attempt (.requestRejected cause)
  | .ok result =>
      match controller.subscribeChannels? start attempt result.links with
      | none => controller.fail start attempt .superseded
      | some subscribed =>
          subscribed.enter start (.askedStatus attempt.workspaceId .running)
            |>.enter start (.askedStatus attempt.workspaceId .error)
            |>.setCall start (.pending .watching)

/-- One of the two status watches has ended. -/
def onWatched (controller : Controller) (start : Nat) (attempt : Attempt)
    (answer : Except ControlFailure StatusChange) : Controller :=
  match answer with
  | .error cause => controller.fail start attempt (.watchFailed cause)
  | .ok change =>
      if change.status = .error then
        controller.fail start attempt (.ofStatusError change.error)
      else
        controller.enter start (.askedDetails attempt.workspaceId)
          |>.setCall start (.pending .fetching)

/-- The service has answered with the details of the workspace. -/
def onFetched (controller : Controller) (start : Nat) (attempt : Attempt)
    (answer : Except ControlFailure Workspace) : Controller :=
  match answer with
  | .error cause => controller.fail start attempt (.detailsUnavailable cause)
  | .ok workspace =>
      if controller.isCurrent attempt then
        match controller.config.strategy.resolve? workspace with
        | some url =>
            controller.takeTurn start attempt
              ((Reconnect.new url attempt.budget).proceed true)
        | none => controller.fail start attempt .endpointUnavailable
      else controller.fail start attempt .superseded

end WorkspaceStartup.Controller
