import WorkspaceStartup.Workspace.Wire
import WorkspaceStartup.Failure

/-!
# A scripted service

A workspace service that is not there.  Unless told otherwise it accepts every
start, advertises two channels, and describes a running workspace with an
agent.  Its answers can be held back by gates: a start gate keeps at most one
permit for later, a details gate keeps all of them.
-/

namespace WorkspaceStartup

/-- A gate before the answers for one workspace. -/
structure Gate where
  /-- Tells the gate from the ones it replaced. -/
  number : Nat
  permits : Nat
  deriving DecidableEq, Repr

/-- A service that answers from a script, by the names of workspaces. -/
structure ScriptedService where
  startFailures : Dictionary ControlFailure
  startResults : Dictionary StartResult
  details : Dictionary (Except ControlFailure Workspace)
  statuses : Dictionary StatusChange
  /-- Status watches that fail at once, the latest first. -/
  watchFailures : List ((WorkspaceId × Status) × ControlFailure)
  startGates : Dictionary Gate
  detailGates : Dictionary Gate
  gateCount : Nat
  detailCalls : Nat
  listCalls : Nat

namespace ScriptedService

def new : ScriptedService where
  startFailures := .empty
  startResults := .empty
  details := .empty
  statuses := .empty
  watchFailures := []
  startGates := .empty
  detailGates := .empty
  gateCount := 0
  detailCalls := 0
  listCalls := 0

/-- The channels that the service advertises by default. -/
def defaultStart (id : WorkspaceId) : StartResult where
  id := id
  links :=
    [.advertising Relation.statusChannel
      ("workspace:" ++ id.text ++ ":statuses"),
    .advertising Relation.outputChannel
      ("workspace:" ++ id.text ++ ":environment_output")]

/-- The machine of the workspace that the service describes by default. -/
def defaultMachine : Machine where
  config := ⟨"dev-machine"⟩
  runtime :=
    { environment := .empty
      servers := .ofList [("4401/tcp",
        { reference := some "wsagent"
          address := none
          url := some "http://localhost:4401/api"
          protocol := some "http" })] }

/-- The workspace that the service describes by default. -/
def defaultDetails (id : WorkspaceId) : Workspace where
  id := id
  status := .running
  config := ⟨"", "default"⟩
  links := []
  runtime := some ⟨some defaultMachine, [defaultMachine]⟩

/-- The answer to a request to start a workspace. -/
def startAnswer (service : ScriptedService) (id : WorkspaceId) :
    Except ControlFailure StartResult :=
  match service.startFailures.get? id.text with
  | some failure => .error failure
  | none => .ok ((service.startResults.get? id.text).getD (defaultStart id))

/-- The answer to a request for the details of a workspace. -/
def detailsAnswer (service : ScriptedService) (id : WorkspaceId) :
    Except ControlFailure Workspace :=
  (service.details.get? id.text).getD (.ok (defaultDetails id))

/-- How a status watch that begins now fails, if it does. -/
def watchFailure? (service : ScriptedService) (id : WorkspaceId)
    (target : Status) : Option ControlFailure :=
  (service.watchFailures.find? fun entry => entry.1 == (id, target)).map (·.2)

/-- The latest status of a workspace, if it is one of those watched for. -/
def statusAnswer? (service : ScriptedService) (id : WorkspaceId)
    (targets : List Status) : Option StatusChange :=
  (service.statuses.get? id.text).filter fun change =>
    targets.contains change.status

/-- A gate with a new number. -/
def newGate (service : ScriptedService) : Gate × ScriptedService :=
  (⟨service.gateCount, 0⟩, { service with gateCount := service.gateCount + 1 })

def setStartGate (service : ScriptedService) (id : WorkspaceId) (gate : Gate) :
    ScriptedService :=
  { service with startGates := service.startGates.insert id.text gate }

def setDetailGate (service : ScriptedService) (id : WorkspaceId) (gate : Gate) :
    ScriptedService :=
  { service with detailGates := service.detailGates.insert id.text gate }

def gateStart (service : ScriptedService) (id : WorkspaceId) : ScriptedService :=
  let (gate, service) := service.newGate
  service.setStartGate id gate

def gateDetails (service : ScriptedService) (id : WorkspaceId) : ScriptedService :=
  let (gate, service) := service.newGate
  service.setDetailGate id gate

def failStart (service : ScriptedService) (id : WorkspaceId)
    (failure : ControlFailure) : ScriptedService :=
  { service with startFailures := service.startFailures.insert id.text failure }

def setStart (service : ScriptedService) (id : WorkspaceId) (result : StartResult) :
    ScriptedService :=
  { service with startResults := service.startResults.insert id.text result }

def setDetails (service : ScriptedService) (id : WorkspaceId)
    (answer : Except ControlFailure Workspace) : ScriptedService :=
  { service with details := service.details.insert id.text answer }

def failWatch (service : ScriptedService) (id : WorkspaceId) (target : Status)
    (failure : ControlFailure) : ScriptedService :=
  { service with watchFailures := ((id, target), failure) :: service.watchFailures }

def setStatus (service : ScriptedService) (change : StatusChange) :
    ScriptedService :=
  { service with
    statuses := service.statuses.insert change.workspaceId.text change }

def countDetails (service : ScriptedService) : ScriptedService :=
  { service with detailCalls := service.detailCalls + 1 }

def countList (service : ScriptedService) : ScriptedService :=
  { service with listCalls := service.listCalls + 1 }

end ScriptedService

end WorkspaceStartup
