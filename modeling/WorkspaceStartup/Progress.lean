import WorkspaceStartup.Json.Basic
import WorkspaceStartup.Text.Split

/-!
# Progress of a startup

The steps of a startup stand in a fixed order.  Each collects log lines and
may be marked as failed; one is the current step, and it only ever moves
forward until everything is reset.
-/

namespace WorkspaceStartup

/-- How a step is called before it is reached and from then on. -/
structure StepLabels where
  label : String
  activeLabel : String
  deriving DecidableEq, Repr

/-- A step with the logs collected so far, joined by line feeds. -/
structure Step where
  labels : StepLabels
  logs : String
  failed : Bool
  deriving DecidableEq, Repr

namespace Step

def blank (labels : StepLabels) : Step := ⟨labels, "", false⟩

def append (step : Step) (line : String) : Step :=
  { step with
    logs := if step.logs.isEmpty then line else step.logs ++ "\n" ++ line }

def encode (step : Step) : Json :=
  .object [("label", .text step.labels.label),
    ("in_progress_label", .text step.labels.activeLabel),
    ("logs", .text step.logs), ("has_error", .bool step.failed)]

def logLines (step : Step) : List String := Text.lines step.logs

end Step

/-- The steps of a startup and the position of the current one. -/
structure Tracker where
  steps : List Step
  current : Nat
  deriving DecidableEq, Repr

namespace Tracker

/-- The step in which the service starts the machines. -/
def runtimeStep : Nat := 0

/-- The step in which the agent starts. -/
def agentStep : Nat := 1

/-- The step in which the workspace is up. -/
def startedStep : Nat := 2

def startupSteps : List StepLabels :=
  [⟨"Starting workspace runtime",
    "Retrieving the stack's image and launching it"⟩,
  ⟨"Starting workspace agent",
    "Agents provide RESTful services like intellisense and SSH"⟩,
  ⟨"Workspace started", "Opening"⟩]

def ofLabels (labels : List StepLabels) : Tracker :=
  ⟨labels.map Step.blank, 0⟩

def startup : Tracker := ofLabels startupSteps

/-- Moves forward to a later step, if there is such a step. -/
def advance (tracker : Tracker) (step : Nat) : Option Tracker :=
  if tracker.current < step ∧ step < tracker.steps.length then
    some { tracker with current := step }
  else none

/-- Changes one step, if there is such a step. -/
def update (tracker : Tracker) (step : Nat) (change : Step → Step) :
    Option Tracker :=
  if step < tracker.steps.length then
    some { tracker with steps := tracker.steps.modify step change }
  else none

/-- Adds a line to the logs of a step. -/
def append (tracker : Tracker) (step : Nat) (line : String) : Option Tracker :=
  tracker.update step fun entry => entry.append line

/-- Makes a text the only log of a step. -/
def replaceLog (tracker : Tracker) (step : Nat) (text : String) :
    Option Tracker :=
  tracker.update step fun entry => { entry with logs := text }

def markFailed (tracker : Tracker) (step : Nat) : Option Tracker :=
  tracker.update step fun entry => { entry with failed := true }

/-- The same steps without logs and marks, the first one current. -/
def reset (tracker : Tracker) : Tracker :=
  ⟨tracker.steps.map fun step => Step.blank step.labels, 0⟩

def step? (tracker : Tracker) (step : Nat) : Option Step :=
  tracker.steps[step]?

/-- What a step is called while the current step is where it is. -/
def labelFor? (tracker : Tracker) (step : Nat) : Option String :=
  (tracker.step? step).map fun entry =>
    if step ≤ tracker.current then entry.labels.activeLabel
    else entry.labels.label

def anyFailed (tracker : Tracker) : Bool :=
  tracker.steps.any (·.failed)

/-- A change that a tracker can be asked for. -/
inductive Change
  | advance (step : Nat)
  | append (step : Nat) (line : String)
  | replaceLog (step : Nat) (text : String)
  | markFailed (step : Nat)
  | reset
  deriving DecidableEq, Repr

/-- The tracker after a change, unless the change is refused. -/
def change? (tracker : Tracker) : Change → Option Tracker
  | .advance step => tracker.advance step
  | .append step line => tracker.append step line
  | .replaceLog step text => tracker.replaceLog step text
  | .markFailed step => tracker.markFailed step
  | .reset => some tracker.reset

/-- The tracker after a change, which is the same after one that is refused. -/
def changed (tracker : Tracker) (change : Change) : Tracker :=
  (tracker.change? change).getD tracker

/-- The tracker after changes that are asked for one after the other. -/
def after (tracker : Tracker) (changes : List Change) : Tracker :=
  changes.foldl changed tracker

end Tracker

end WorkspaceStartup
