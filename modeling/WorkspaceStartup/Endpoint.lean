import WorkspaceStartup.Url.Part
import WorkspaceStartup.Workspace.Basic

/-!
# The agent's endpoint

Where the agent of a running workspace is reached: at a socket below the URL
of the development machine's agent server, or at the published address of a
fixed port of the first machine.
-/

namespace WorkspaceStartup

/-- How the endpoint of the agent is found. -/
inductive EndpointStrategy
  | agentServer
  | fixedPort (port : Nat)
  deriving DecidableEq, Repr

namespace EndpointStrategy

/-- The reference that marks the agent's server. -/
def agentReference : String := "wsagent"

/-- The name of the agent's server when no server is marked. -/
def agentServerName : String := "4401/tcp"

def serverName (port : Nat) : String := Text.decimal port ++ "/tcp"

def agentServer? (machine : Machine) : Option Server :=
  (machine.serverByReference? agentReference).or
    (machine.server? agentServerName)

/-- The URL under the scheme of sockets; one that has it already stays. -/
def asSocket? (url : Url) : Option Url :=
  if url.scheme = "http" then url.withScheme? "ws"
  else if url.scheme = "https" then url.withScheme? "wss"
  else if url.scheme = "ws" ∨ url.scheme = "wss" then some url
  else none

/-- The socket below the URL of an agent's server. -/
def socketOf? (server : Server) : Option String := do
  let address ← server.url
  let url ← Url.parse? address
  let socket ← asSocket? url
  return (socket.below "/ws").text

/-- The socket at the published address of a server. -/
def addressSocket? (server : Server) : Option String := do
  let address ← server.address
  let url ← Url.parse? ("ws://" ++ address ++ "/")
  return url.text

def resolve? (strategy : EndpointStrategy) (workspace : Workspace) :
    Option String :=
  match strategy with
  | agentServer => do
      let machine ← workspace.devMachine?
      let server ← agentServer? machine
      socketOf? server
  | fixedPort port => do
      let machine ← workspace.firstMachine?
      let server ← machine.server? (serverName port)
      addressSocket? server

end EndpointStrategy

end WorkspaceStartup
