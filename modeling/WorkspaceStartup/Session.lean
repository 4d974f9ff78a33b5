import WorkspaceStartup.Controller.Move
import WorkspaceStartup.Launch
import WorkspaceStartup.Service.Answer
import WorkspaceStartup.Settings.Basic

/-!
# Sessions

What the program does once it knows its settings: it lists the workspaces of
the service, or it starts one of them and tells the URL under which it is
opened.  A session sees its surroundings only through the operations that it
is given, so that it can be held with the network as well as with a script.
-/

namespace WorkspaceStartup

/-- Why a session ends before its time. -/
inductive SessionFailure
  | workspaceUnavailable (id : WorkspaceId) (cause : ControlFailure)
  | noBus (serverUrl : String)
  | busUnreachable (url : String) (cause : LinkFailure)
  | notStarted (cause : StartFailure)
  | serviceFailed (cause : ControlFailure)
  | interrupted
  deriving DecidableEq, Repr

namespace SessionFailure

/-- What is said of the failure; the cause of the first three is left unsaid. -/
def text : SessionFailure → String
  | workspaceUnavailable id _ => "fetching workspace " ++ id.text
  | noBus serverUrl => "no message bus URL for server " ++ serverUrl
  | busUnreachable url _ => "connecting to message bus at " ++ url
  | notStarted cause => cause.text
  | serviceFailed cause => cause.text
  | interrupted => "interrupted"

end SessionFailure

/-- The line that lists a workspace. -/
def Workspace.listLine (workspace : Workspace) : String :=
  workspace.id.text ++ "\t" ++ workspace.status.word ++ "\t" ++
    workspace.config.name

/-- The line that shows an event, if it is one of those that are shown. -/
def Event.progressLine? : Event → Option String
  | stepLogged _ step line => some ("[" ++ Text.decimal step ++ "] " ++ line)
  | _ => none

/-- What a session needs of its surroundings. -/
structure Surroundings (m : Type → Type) where
  transport : Transport m
  /-- Connects to the message bus at a URL. -/
  joinBus (url : String) : m (Except LinkFailure Unit)
  /-- Carries a controller on until its start has ended. -/
  attend (controller : Controller) : m Controller
  tell (line : String) : m Unit
  drawNumber : m Nat

namespace Session

def list [Monad m] (surroundings : Surroundings m) (service : Service) :
    m (Except SessionFailure Unit) := do
  match ← service.fetchWorkspaces surroundings.transport with
  | .error cause => return .error (.serviceFailed cause)
  | .ok workspaces =>
      (workspaces.map Workspace.listLine).forM surroundings.tell
      return .ok ()

/-- What a controller is told for a session. -/
def configOf (settings : Settings) (strategy : EndpointStrategy) : Config where
  budget := settings.reconnectBudget
  retryDelay := settings.retryDelayMs
  strategy := strategy

/-- How the only start of a controller has ended. -/
def resultOf (controller : Controller) : Except SessionFailure Unit :=
  match controller.starts.map Start.call with
  | [.returned (.ok ())] => .ok ()
  | [.returned (.error cause)] => .error (.notStarted cause)
  | _ => .error .interrupted

/-- Connects to the bus and carries the start of a workspace to its end. -/
def bringUp [Monad m] (surroundings : Surroundings m) (settings : Settings)
    (strategy : EndpointStrategy) (workspace : Workspace) :
    m (Except SessionFailure Unit) := do
  match settings.effectiveBusUrl? with
  | none => return .error (.noBus settings.serverUrl)
  | some busUrl =>
      match ← surroundings.joinBus busUrl with
      | .error cause => return .error (.busUnreachable busUrl cause)
      | .ok () =>
          let controller := Controller.new (configOf settings strategy)
          let ended ← surroundings.attend
            (controller.begin workspace.id workspace.config.defaultEnvironment)
          return resultOf ended

/-- Tells the URL under which a started workspace is opened, if there is one. -/
def tellUrl [Monad m] (surroundings : Surroundings m) (launch : Launch)
    (workspace : Workspace) : m Unit := do
  let number ← surroundings.drawNumber
  match launch.url? workspace number with
  | some url => surroundings.tell url
  | none => return ()

/-- Starts a workspace and tells the URL under which it is opened. -/
def start [Monad m] (surroundings : Surroundings m) (service : Service)
    (settings : Settings) (strategy : EndpointStrategy) (launch : Launch)
    (id : WorkspaceId) : m (Except SessionFailure Unit) := do
  match ← service.fetchDetails surroundings.transport id with
  | .error cause => return .error (.workspaceUnavailable id cause)
  | .ok workspace =>
      match ← bringUp surroundings settings strategy workspace with
      | .error failure => return .error failure
      | .ok () =>
          match ← service.fetchDetails surroundings.transport id with
          | .error cause => return .error (.serviceFailed cause)
          | .ok details =>
              tellUrl surroundings launch details
              return .ok ()

end Session

end WorkspaceStartup
