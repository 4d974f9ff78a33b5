import WorkspaceStartup.Controller.Basic

/-!
# What channel messages do

Messages change what is shown of a startup, never its course.  A status event
counts only as an error of the attempt's own workspace; a message of the agent
moves the progress to the agent's step; machine output is logged in the step
that is current.  A message for an attempt that no longer owns the progress
changes nothing.
-/

namespace WorkspaceStartup.Controller

/-- A message on the status channel of a start. -/
def onStatus (controller : Controller) (start : Nat) (attempt : Attempt)
    (body : String) : Controller :=
  let message := ChannelMessage.parse .status body
  let id := attempt.workspaceId
  if message.isErrorFor id && controller.owns attempt then
    let shown := StartFailure.workspaceErrorText message.error
    (controller.flagCurrent start id shown).report start
      ⟨.workspaceStart, shown⟩
  else controller

/-- A message on the agent's channel of a start. -/
def onAgent (controller : Controller) (start : Nat) (attempt : Attempt)
    (body : String) : Controller :=
  let message := ChannelMessage.parse .agent body
  let line := message.displayLine
  let id := attempt.workspaceId
  if controller.owns attempt then
    let logged :=
      (controller.advance start id Tracker.agentStep).logLine start id
        Tracker.agentStep line
    if message.isErrorFor id then
      (logged.markFailed start id Tracker.agentStep).report start
        ⟨.agentStart,
          Phase.agentStart.title ++ ": " ++ message.error.getD line⟩
    else logged
  else controller

/-- A message on the output channel of a start. -/
def onOutput (controller : Controller) (start : Nat) (attempt : Attempt)
    (body : String) : Controller :=
  let line := (ChannelMessage.parse .output body).displayLine
  if controller.owns attempt then
    controller.logLine start attempt.workspaceId controller.tracker.current line
  else controller

/-- Calls a handler with the body of a message. -/
def handle (controller : Controller) (handler : Handler) (body : String) :
    Controller :=
  match controller.starts[handler.start]? with
  | none => controller
  | some entry =>
      match handler.kind with
      | .status => controller.onStatus handler.start entry.attempt body
      | .agent => controller.onAgent handler.start entry.attempt body
      | .output => controller.onOutput handler.start entry.attempt body

/-- Delivers a message to the handler of its channel, if it has one. -/
def publish (controller : Controller) (channel body : String) : Controller :=
  match controller.bus.handler? channel with
  | some handler => controller.handle handler body
  | none => controller

/-- Calls a handler that was subscribed at some time, whether or not it still is. -/
def fire (controller : Controller) (position : Nat) (body : String) :
    Controller :=
  match controller.bus.history[position]? with
  | some handler => controller.handle handler body
  | none => controller

end WorkspaceStartup.Controller
