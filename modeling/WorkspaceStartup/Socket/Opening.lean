import WorkspaceStartup.Failure
import WorkspaceStartup.Socket.Address

/-!
# Opening sockets

How the opening of a socket ends depends on its address and on what listens
there.  Trouble with the network refuses the opening, trouble with the address
or with the answer of the listener breaks the protocol, and whoever stays
silent lets the opening time out.
-/

namespace WorkspaceStartup

/-- How a place of the network receives those who connect to it. -/
inductive Reception
  /-- The listener agrees to a socket if the visitor asks for a path. -/
  | agrees
  /-- The listener answers with a status instead. -/
  | declines (status : String)
  /-- The listener never answers. -/
  | silent
  /-- Nobody listens. -/
  | closed
  deriving DecidableEq, Repr

structure SocketConnection where
  url : String
  /-- The other side has not been told of the end. -/
  isOpen : Bool
  /-- How often the other side has been told of the end. -/
  closeFrames : Nat
  deriving DecidableEq, Repr

namespace SocketConnection

def new (url : String) : SocketConnection := ⟨url, true, 0⟩

/-- Tells the other side of the end, once and for all. -/
def close (connection : SocketConnection) : SocketConnection :=
  if connection.isOpen then
    { connection with isOpen := false, closeFrames := connection.closeFrames + 1 }
  else connection

end SocketConnection

namespace SocketAddress

/-- How long an opening may take by default. -/
def defaultPatience : Duration := .ofMilliseconds 10000

/-- The trouble with a scheme that opens no socket here, if there is any. -/
def schemeTrouble? : Option String → Option String
  | some "ws" => none
  | some "wss" => some "URL error: TLS support not compiled in"
  | _ => some "URL error: URL scheme not supported"

/-- The place of the network that a text addresses. -/
def place? (text : String) : Except LinkFailure (SocketAddress × String × Nat) :=
  match read? text with
  | none => .error (.protocol "URL error: invalid address")
  | some address =>
      match address.host?, address.port? with
      | none, _ => .error (.protocol "URL error: No host name in the URL")
      | some _, none => .error (.protocol "URL error: URL scheme not supported")
      | some host, some port => .ok (address, host, port)

/-- Opens a socket in a network, given by how its places receive visitors. -/
def connect (network : String → Nat → Reception) (patience : Duration)
    (url : String) : Except LinkFailure SocketConnection := do
  let (address, host, port) ← place? url
  if patience.nanoseconds = 0 then throw (.timedOut patience)
  match network host port, schemeTrouble? address.scheme with
  | .closed, _ => throw (.refused "Connection refused (os error 111)")
  | _, some trouble => throw (.protocol trouble)
  | .agrees, none =>
      if address.requestTarget.startsWith "/" then return .new url
      else throw (.protocol "WebSocket protocol error: Handshake not finished")
  | .declines status, none => throw (.protocol ("HTTP error: " ++ status))
  | .silent, none => throw (.timedOut patience)

end SocketAddress

end WorkspaceStartup
