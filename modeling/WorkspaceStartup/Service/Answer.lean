import WorkspaceStartup.Json.Bytes
import WorkspaceStartup.Service.Call
import WorkspaceStartup.Workspace.Wire

/-!
# Answers of the workspace service

An answer of the service is judged by its status first.  Only a successful one
is read for a value; the body of any other holds at most a message.
-/

namespace WorkspaceStartup

structure Answer where
  status : Nat
  body : List UInt8
  deriving DecidableEq, Repr

namespace Answer

/-- The body as it arrives: some statuses never come with one. -/
def content (answer : Answer) : List UInt8 :=
  if [101, 204, 304].contains answer.status then [] else answer.body

/--
The status is that of a whole answer.  It has three digits, and a status below
200 only announces the answer, except for the one that ends the exchange.
-/
def isWhole (answer : Answer) : Bool :=
  answer.status == 101 || (200 ≤ answer.status && answer.status ≤ 999)

def isSuccess (answer : Answer) : Bool :=
  200 ≤ answer.status && answer.status < 300

/-- The answer, if it is a successful one. -/
def check (answer : Answer) : Except ControlFailure Answer :=
  if answer.isSuccess then .ok answer
  else .error (.ofAnswer answer.status (Text.shownTextOfBytes answer.content))

/-- What is said of a body that cannot be read. -/
def unreadableText : String := "error decoding response body"

/-- The value of a successful answer. -/
def read (decode : Json.Decoder α) (answer : Answer) :
    Except ControlFailure α := do
  let answer ← answer.check
  match Json.decodeBytes decode answer.content with
  | .ok value => return value
  | .error _ => throw (.unreadable unreadableText)

end Answer

/-- The answer to a request that arrived, or what kept it from arriving. -/
abbrev Reply := Except ControlFailure Answer

/-- The failure of a request that is not answered. -/
def ControlFailure.unanswered : ControlFailure :=
  .transport "error sending request"

/-- What a request brings that is sent to somebody who answers so. -/
def Answer.reply (answer : Answer) : Reply :=
  if answer.isWhole then .ok answer else .error .unanswered

/-- A way to have requests replied to. -/
abbrev Transport (m : Type → Type) := Request → m Reply

namespace Service

/-- Makes a call. -/
def reply [Monad m] (service : Service) (transport : Transport m)
    (call : ServiceCall) : m Reply :=
  match service.request call with
  | .ok request => transport request
  | .error failure => return .error failure

/-- Makes a call and reads the value of its answer. -/
def ask [Monad m] (service : Service) (transport : Transport m)
    (call : ServiceCall) (decode : Json.Decoder α) :
    m (Except ControlFailure α) := do
  let reply ← service.reply transport call
  return reply.bind (Answer.read decode)

/-- Asks to start a workspace in an environment. -/
def requestStart [Monad m] (service : Service) (transport : Transport m)
    (id : WorkspaceId) (environment : String) :
    m (Except ControlFailure StartResult) :=
  service.ask transport (.start id environment) StartResult.decode

/-- Asks for the details of a workspace. -/
def fetchDetails [Monad m] (service : Service) (transport : Transport m)
    (id : WorkspaceId) : m (Except ControlFailure Workspace) :=
  service.ask transport (.details id) Workspace.decode

/-- Asks for all workspaces. -/
def fetchWorkspaces [Monad m] (service : Service) (transport : Transport m) :
    m (Except ControlFailure (List Workspace)) :=
  service.ask transport .list (Json.Decode.list Workspace.decode)

/-- Tells the service that somebody works in a workspace. -/
def recordActivity [Monad m] (service : Service) (transport : Transport m)
    (id : WorkspaceId) : m (Except ControlFailure Unit) := do
  let reply ← service.reply transport (.activity id)
  return (reply.bind Answer.check).map fun _ => ()

end Service

end WorkspaceStartup
