import WorkspaceStartup.Attempt
import WorkspaceStartup.Channel.Message
import WorkspaceStartup.Endpoint
import WorkspaceStartup.Journal
import WorkspaceStartup.Progress
import WorkspaceStartup.Reconnect

/-!
# The controller of startups

The controller starts one workspace at a time.  Every start has its own
attempt; the latest start is the active one, and the progress that is shown
belongs to the attempt whose generation is stamped on it.  What the controller
does to the outside, from announcing an event to closing a connection, is
entered into a journal together with the start on whose behalf it was done.
-/

namespace WorkspaceStartup

/-- A handler of a channel, in the role that a start gave it. -/
structure Handler where
  /-- The position of the start among all starts. -/
  start : Nat
  kind : ChannelKind
  deriving DecidableEq, Repr

/-- Where a start waits for its surroundings. -/
inductive Stage
  | starting
  | watching
  | fetching
  | opening (run : Reconnect)
  | waiting (run : Reconnect) (wakeTime : Nat)
  deriving DecidableEq, Repr

inductive Call
  | pending (stage : Stage)
  | returned (result : Except StartFailure Unit)
  | dropped

/-- A start: its attempt, and how far its call has come. -/
structure Start where
  attempt : Attempt
  environment : String
  /-- An error has been reported on behalf of this start. -/
  reported : Bool
  call : Call

/-- What is fixed for all starts. -/
structure Config where
  /-- How often the agent's link may be tried. -/
  budget : Nat
  /-- How many milliseconds a run waits after a failed try. -/
  retryDelay : Nat
  strategy : EndpointStrategy
  deriving DecidableEq, Repr

structure Controller where
  config : Config
  /-- The active generation. -/
  generation : Nat
  /-- The generation to which the progress belongs. -/
  stamp : Nat
  tracker : Tracker
  /-- The position of the active start. -/
  active : Option Nat
  bus : Bus Handler
  starts : List Start
  /-- The time in milliseconds. -/
  clock : Nat
  /-- What was done, the latest first. -/
  journal : List Entry

namespace Controller

def new (config : Config) : Controller where
  config := config
  generation := 0
  stamp := 0
  tracker := .startup
  active := none
  bus := .empty
  starts := []
  clock := 0
  journal := []

/-- Enters a deed on behalf of a start. -/
def enter (controller : Controller) (start : Nat) (deed : Deed) : Controller :=
  { controller with
    journal := ⟨start, controller.clock, deed⟩ :: controller.journal }

def announce (controller : Controller) (start : Nat) (event : Event) :
    Controller :=
  controller.enter start (.announced event)

def changeStart (controller : Controller) (start : Nat)
    (change : Start → Start) : Controller :=
  { controller with starts := controller.starts.modify start change }

def setCall (controller : Controller) (start : Nat) (call : Call) : Controller :=
  controller.changeStart start fun entry => { entry with call := call }

def teardown (controller : Controller) (start : Nat) : Controller :=
  match controller.starts[start]? with
  | none => controller
  | some entry =>
      let (attempt, bus) := entry.attempt.teardown controller.bus
      { controller.changeStart start fun entry => { entry with attempt := attempt }
        with bus := bus }

def invalidate (controller : Controller) (start : Nat) : Controller :=
  match controller.starts[start]? with
  | none => controller
  | some entry =>
      let (attempt, bus) := entry.attempt.invalidate controller.bus
      { controller.changeStart start fun entry => { entry with attempt := attempt }
        with bus := bus }

/-- The progress belongs to the attempt. -/
def owns (controller : Controller) (attempt : Attempt) : Bool :=
  controller.stamp == attempt.generation

/-- The attempt may act. -/
def isCurrent (controller : Controller) (attempt : Attempt) : Bool :=
  attempt.isCurrent controller.generation

/-- Moves the progress forward to a step. -/
def advance (controller : Controller) (start : Nat) (id : WorkspaceId)
    (step : Nat) : Controller :=
  match controller.tracker.advance step with
  | some tracker =>
      { controller with tracker := tracker }.announce start (.stepAdvanced id step)
  | none => controller

/-- Adds a line to the log of a step. -/
def logLine (controller : Controller) (start : Nat) (id : WorkspaceId)
    (step : Nat) (line : String) : Controller :=
  match controller.tracker.append step line with
  | some tracker =>
      { controller with tracker := tracker }.announce start
        (.stepLogged id step line)
  | none => controller

/-- Makes a line the only log of a step. -/
def replaceLog (controller : Controller) (start : Nat) (id : WorkspaceId)
    (step : Nat) (line : String) : Controller :=
  match controller.tracker.replaceLog step line with
  | some tracker =>
      { controller with tracker := tracker }.announce start
        (.stepLogged id step line)
  | none => controller

def markFailed (controller : Controller) (start : Nat) (id : WorkspaceId)
    (step : Nat) : Controller :=
  match controller.tracker.markFailed step with
  | some tracker =>
      { controller with tracker := tracker }.announce start (.stepFailed id step)
  | none => controller

/-- Marks the current step as failed and adds a line to its log. -/
def flagCurrent (controller : Controller) (start : Nat) (id : WorkspaceId)
    (line : String) : Controller :=
  let step := controller.tracker.current
  (controller.markFailed start id step).logLine start id step line

/-- Marks the current step as failed and makes a line its only log. -/
def flagAndReplace (controller : Controller) (start : Nat) (id : WorkspaceId)
    (line : String) : Controller :=
  let step := controller.tracker.current
  (controller.markFailed start id step).replaceLog start id step line

/-- Reports an error on behalf of a start, unless one has been reported already. -/
def report (controller : Controller) (start : Nat) (report : Report) :
    Controller :=
  match controller.starts[start]? with
  | none => controller
  | some entry =>
      if entry.reported then controller
      else
        (controller.changeStart start fun entry =>
          { entry with reported := true }).enter start (.reported report)

/-- The workspace of the latest start. -/
def activeWorkspace? (controller : Controller) : Option WorkspaceId :=
  (controller.active.bind fun start => controller.starts[start]?).map
    (·.attempt.workspaceId)

/-- The channels that the active attempt holds. -/
def activeChannels (controller : Controller) : List String :=
  match controller.active.bind fun start => controller.starts[start]? with
  | some entry => entry.attempt.channels
  | none => []

end Controller

end WorkspaceStartup
