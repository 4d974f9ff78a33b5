import WorkspaceStartup.Dictionary
import WorkspaceStartup.Uuid

/-!
# Workspaces

A workspace as its service describes it: its status, the links it advertises,
and, while it runs, the machines with the servers they expose.
-/

namespace WorkspaceStartup

/-- The identity of a workspace, as the service assigned it. -/
structure WorkspaceId where
  text : String
  deriving DecidableEq, Repr, Inhabited

namespace WorkspaceId

/-- A new identity in the shape that the service uses. -/
def ofUuid (uuid : Uuid) : WorkspaceId :=
  ⟨"workspace" ++ String.ofList uuid.digits⟩

end WorkspaceId

inductive Status
  | stopped
  | starting
  | running
  | stopping
  | error
  deriving DecidableEq, Repr

namespace Status

def all : List Status := [stopped, starting, running, stopping, error]

/-- The word that the service uses for a status. -/
def word : Status → String
  | stopped => "STOPPED"
  | starting => "STARTING"
  | running => "RUNNING"
  | stopping => "STOPPING"
  | error => "ERROR"

/-- The status that a word of the service names. -/
def ofWord? (word : String) : Option Status :=
  all.find? fun status => status.word == word

end Status

structure LinkParameter where
  name : String
  defaultValue : Option String
  deriving DecidableEq, Repr

/-- A reference to something that belongs to a workspace. -/
structure Link where
  relation : String
  target : String
  method : Option String
  parameters : List LinkParameter
  deriving DecidableEq, Repr

namespace Link

/-- The channel that a channel link names: its first parameter's default value. -/
def channel? (link : Link) : Option String :=
  (link.parameters.head?.bind (·.defaultValue)).filter fun name => !name.isEmpty

def find? (links : List Link) (relation : String) : Option Link :=
  List.find? (fun link => link.relation == relation) links

/-- The channel advertised by the first link of a relation. -/
def channelFor? (links : List Link) (relation : String) : Option String :=
  (find? links relation).bind channel?

def advertising (relation channel : String) : Link where
  relation := relation
  target := ""
  method := none
  parameters := [⟨"channel", some channel⟩]

end Link

namespace Relation

/-- The relation of the link that names the channel of status events. -/
def statusChannel : String := "environment.status_channel"

/-- The relation of the link that names the channel of machine output. -/
def outputChannel : String := "environment.output_channel"

/-- The relation of the link to the development environment. -/
def environmentUrl : String := "ide url"

end Relation

/-- What a workspace is called and which of its environments is started. -/
structure WorkspaceConfig where
  name : String
  defaultEnvironment : String
  deriving DecidableEq, Repr

structure Server where
  reference : Option String
  address : Option String
  url : Option String
  protocol : Option String
  deriving DecidableEq, Repr

structure MachineConfig where
  name : String
  deriving DecidableEq, Repr

/-- The environment and the servers of a machine; a server's name is its port and protocol. -/
structure MachineRuntime where
  environment : Dictionary String
  servers : Dictionary Server
  deriving DecidableEq

structure Machine where
  config : MachineConfig
  runtime : MachineRuntime
  deriving DecidableEq

namespace Machine

def server? (machine : Machine) (name : String) : Option Server :=
  machine.runtime.servers.get? name

/-- The first of the servers that carries the reference. -/
def firstReferring (reference : String) (servers : List Server) : Option Server :=
  servers.find? fun server => server.reference == some reference

/-- A server with the reference; of several the one whose name comes first. -/
def serverByReference? (machine : Machine) (reference : String) : Option Server :=
  firstReferring reference machine.runtime.servers.values

end Machine

structure WorkspaceRuntime where
  devMachine : Option Machine
  machines : List Machine
  deriving DecidableEq

/-- A workspace as its service describes it. -/
structure Workspace where
  id : WorkspaceId
  status : Status
  config : WorkspaceConfig
  links : List Link
  runtime : Option WorkspaceRuntime
  deriving DecidableEq

namespace Workspace

/-- The target of the first link of a relation, empty without such a link. -/
def linkTarget (workspace : Workspace) (relation : String) : String :=
  match Link.find? workspace.links relation with
  | some link => link.target
  | none => ""

def devMachine? (workspace : Workspace) : Option Machine :=
  workspace.runtime.bind (·.devMachine)

def firstMachine? (workspace : Workspace) : Option Machine :=
  workspace.runtime.bind (·.machines.head?)

end Workspace

/-- The service's answer to a request to start a workspace. -/
structure StartResult where
  id : WorkspaceId
  links : List Link
  deriving DecidableEq, Repr

/-- A status that a workspace has reached, with the service's words when it failed. -/
structure StatusChange where
  workspaceId : WorkspaceId
  status : Status
  error : Option String
  deriving DecidableEq, Repr

end WorkspaceStartup
