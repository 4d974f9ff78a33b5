import WorkspaceStartup.Json.Draft
import WorkspaceStartup.Json.Decode
import WorkspaceStartup.Text.Blank
import WorkspaceStartup.Text.Duration

/-!
# What can go wrong

Each party of a startup has its own failures: the workspace service, the link
to the agent, the subscriptions of an attempt, the connection run, and the
start as a whole.  Failures are causes; their wording is kept apart in one
function for each type.
-/

namespace WorkspaceStartup

/-- A failed exchange with the workspace service. -/
inductive ControlFailure
  | transport (detail : String)
  | answered (status : Nat) (message : String)
  | unreadable (detail : String)
  | cancelled
  deriving DecidableEq, Repr

namespace ControlFailure

/-- The words of the service in a body: its JSON message, or else the bare text. -/
def messageOf (body : String) : String :=
  match (Json.parse? body).bind fun value => value.textMember? "message" with
  | some message => message
  | none => Text.trim body

/-- The failure that an unsuccessful answer of the service is. -/
def ofAnswer (status : Nat) (body : String) : ControlFailure :=
  answered status (messageOf body)

def text : ControlFailure → String
  | transport detail => "http error: " ++ detail
  | answered status message =>
      "workspace service returned " ++ Text.decimal status ++ ": " ++ message
  | unreadable detail => "malformed response: " ++ detail
  | cancelled => "cancelled"

end ControlFailure

/-- A failure to open the link to the agent. -/
inductive LinkFailure
  | refused (detail : String)
  | timedOut (after : Duration)
  | protocol (detail : String)
  deriving DecidableEq, Repr

namespace LinkFailure

def text : LinkFailure → String
  | refused detail => "connection refused: " ++ detail
  | timedOut after => "connect timed out after " ++ after.text
  | protocol detail => "protocol error: " ++ detail

def kind : LinkFailure → String
  | refused _ => "refused"
  | timedOut _ => "timeout"
  | protocol _ => "protocol"

end LinkFailure

/-- A subscription that an attempt refuses. -/
inductive SubscriptionFailure
  | emptyChannel
  | alreadySubscribed (channel : String)
  deriving DecidableEq, Repr

namespace SubscriptionFailure

def text : SubscriptionFailure → String
  | emptyChannel => "channel name is empty"
  | alreadySubscribed channel => "channel " ++ channel ++ " is already subscribed"

end SubscriptionFailure

/-- The wording shared by a run and a start that gave way to a newer start. -/
def supersededText : String := "superseded by a newer start request"

/-- The end of a connection run that did not connect. -/
inductive ConnectFailure
  | exhausted (attempts : Nat) (last : LinkFailure)
  | cancelled
  deriving DecidableEq, Repr

namespace ConnectFailure

def text : ConnectFailure → String
  | exhausted attempts last =>
      "gave up after " ++ Text.decimal attempts ++ " attempts: " ++ last.text
  | cancelled => supersededText

end ConnectFailure

/-- The part of a startup in which a fatal condition arose. -/
inductive Phase
  | workspaceStart
  | agentStart
  | agentConnection
  deriving DecidableEq, Repr

namespace Phase

def all : List Phase := [workspaceStart, agentStart, agentConnection]

def word : Phase → String
  | workspaceStart => "workspace_start"
  | agentStart => "agent_start"
  | agentConnection => "agent_connection"

def ofWord? (word : String) : Option Phase :=
  all.find? fun phase => phase.word == word

def title : Phase → String
  | workspaceStart => "Error when starting workspace"
  | agentStart => "Error when starting agent"
  | agentConnection => "Unable to connect to workspace agent"

def encode (phase : Phase) : Json := .text phase.word

def decode : Json.Decoder Phase := Json.Decode.choice ofWord? Json.Decode.nothing

end Phase

/-- The end of a start that did not succeed. -/
inductive StartFailure
  | requestRejected (cause : ControlFailure)
  | remote (message : String)
  | detailsUnavailable (cause : ControlFailure)
  | watchFailed (cause : ControlFailure)
  | endpointUnavailable
  | connectionExhausted (attempts : Nat) (last : LinkFailure)
  | superseded
  deriving DecidableEq, Repr

namespace StartFailure

def text : StartFailure → String
  | requestRejected cause => "start request rejected: " ++ cause.text
  | remote message => "workspace failed to start: " ++ message
  | detailsUnavailable cause =>
      "failed to fetch workspace details: " ++ cause.text
  | watchFailed cause => "status watch failed: " ++ cause.text
  | endpointUnavailable => "workspace runtime exposes no agent endpoint"
  | connectionExhausted attempts last =>
      "unable to connect to the workspace agent after " ++
        Text.decimal attempts ++ " attempts: " ++ last.text
  | superseded => supersededText

def kind : StartFailure → String
  | requestRejected _ => "start_request_failed"
  | remote _ => "remote_error"
  | detailsUnavailable _ => "details_fetch_failed"
  | watchFailed _ => "status_watch_failed"
  | endpointUnavailable => "agent_endpoint_unavailable"
  | connectionExhausted _ _ => "connection_exhausted"
  | superseded => "superseded"

def phase : StartFailure → Phase
  | endpointUnavailable | connectionExhausted _ _ => .agentConnection
  | _ => .workspaceStart

/-- The start gave way to a newer one. -/
def isSuperseded : StartFailure → Bool
  | superseded => true
  | _ => false

/-- The failure of the start whose connection run failed. -/
def ofConnect : ConnectFailure → StartFailure
  | .exhausted attempts last => connectionExhausted attempts last
  | .cancelled => superseded

/-- The words for a workspace that failed to start for an unknown reason. -/
def unexplained : String := "workspace failed to start"

/-- The failure of a start whose workspace reached its error status. -/
def ofStatusError (error : Option String) : StartFailure :=
  remote ((error.filter fun message => !message.isEmpty).getD unexplained)

/-- The words in which an error of the workspace itself is shown. -/
def workspaceErrorText (error : Option String) : String :=
  match error.filter fun message => !message.isEmpty with
  | some message => "Error when trying to start the workspace: " ++ message
  | none => "Error when trying to start the workspace."

/-- The words in which the failure is shown. -/
def shown : StartFailure → String
  | remote message => workspaceErrorText (some message)
  | failure => failure.text

end StartFailure

end WorkspaceStartup
