import WorkspaceStartup.Json.Draft
import WorkspaceStartup.Json.Printer
import WorkspaceStartup.Workspace.Basic

/-!
# Messages on workspace channels

The bodies that arrive on a channel are status events and log records in JSON,
or bare lines of text.  A body is read once into a message, from which the
line for the progress log and the errors of a workspace are taken.
-/

namespace WorkspaceStartup

/-- The three channels of a workspace. -/
inductive ChannelKind
  | status
  | output
  | agent
  deriving DecidableEq, Repr

namespace ChannelKind

def word : ChannelKind → String
  | status => "status"
  | output => "output"
  | agent => "agent"

end ChannelKind

/-- The kind of event that a message announces. -/
inductive ChannelEvent
  | reached (status : Status)
  | other (word : String)
  deriving DecidableEq, Repr

namespace ChannelEvent

/-- The event that a word names. -/
def ofWord (word : String) : ChannelEvent :=
  match Status.ofWord? word with
  | some status => reached status
  | none => other word

end ChannelEvent

/-- The body of a message: a line of text, or an object of JSON. -/
inductive Payload
  | line (text : String)
  | record (value : Json)

structure ChannelMessage where
  kind : ChannelKind
  workspaceId : Option WorkspaceId
  event : Option ChannelEvent
  error : Option String
  payload : Payload

namespace ChannelMessage

/-- A message that is nothing but a line of text. -/
def ofLine (kind : ChannelKind) (text : String) : ChannelMessage where
  kind := kind
  workspaceId := none
  event := none
  error := none
  payload := .line text

/-- The message that a JSON value makes. -/
def ofJson (kind : ChannelKind) (value : Json) : ChannelMessage :=
  match value with
  | .object members =>
      let record := Json.object members
      { kind := kind
        workspaceId := (record.textMember? "workspaceId").map WorkspaceId.mk
        event := (record.textMember? "eventType").map ChannelEvent.ofWord
        error := (record.textMember? "error").filter fun text => !text.isEmpty
        payload := .record record }
  | .text line => ofLine kind line
  | other => ofLine kind other.print

/--
The JSON value of a body.  A body that is no JSON stands for its own text, and
a text that holds the JSON of an object stands for that object.
-/
def bodyValue (body : String) : Json :=
  match Json.parse? body with
  | some (.text inner) =>
      match Json.parse? inner with
      | some (.object members) => .object members
      | _ => .text inner
  | some value => value
  | none => .text body

/-- The message in a body received on a channel. -/
def parse (kind : ChannelKind) (body : String) : ChannelMessage :=
  ofJson kind (bodyValue body)

/-- The message is an error event that names this workspace. -/
def isErrorFor (message : ChannelMessage) (id : WorkspaceId) : Bool :=
  message.event == some (.reached .error) && message.workspaceId == some id

/-- The line that a record adds to a progress log. -/
def recordLine (value : Json) : String :=
  match value.textMember? "machineName", value.textMember? "content" with
  | some machine, some content => "[" ++ machine ++ "] " ++ content
  | none, some content => content
  | _, none => (value.textMember? "text").getD value.print

/-- The line that a message adds to a progress log. -/
def displayLine (message : ChannelMessage) : String :=
  match message.payload with
  | .line text => text
  | .record value => recordLine value

end ChannelMessage

end WorkspaceStartup
