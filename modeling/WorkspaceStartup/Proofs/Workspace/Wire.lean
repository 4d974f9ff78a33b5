import WorkspaceStartup.Proofs.Json.Record
import WorkspaceStartup.Workspace.Wire

/-!
# Workspaces come back from the wire

Each type that the service writes is conveyed by its encoding.  The proofs
follow the records: one line says how a field is spelled, and the fields are
put together in the order in which the record declares them.
-/

namespace WorkspaceStartup

open Json
open Json.Record (Spells)

theorem WorkspaceId.encode_conveys (id : WorkspaceId) :
    id.encode.Conveys WorkspaceId.decode id := ⟨trivial, rfl⟩

theorem Status.ofWord?_word (status : Status) :
    ofWord? status.word = some status := by
  cases status <;> rfl

theorem Status.encode_conveys (status : Status) :
    status.encode.Conveys Status.decode status :=
  .choice status.ofWord?_word

theorem LinkParameter.encode_conveys (parameter : LinkParameter) :
    parameter.encode.Conveys LinkParameter.decode parameter := by
  have name := Spells.text "name" (some "") parameter.name
  have default := Spells.optionalText "defaultValue" parameter.defaultValue
  have fields := (name.map LinkParameter.mk).seq default (by decide)
  exact fields.conveys (by decide)

theorem Link.encode_conveys (link : Link) :
    link.encode.Conveys Link.decode link := by
  have relation := Spells.text "rel" none link.relation
  have target := Spells.text "href" (some "") link.target
  have method := Spells.optionalText "method" link.method
  have parameters := Spells.list "parameters" link.parameters
    fun parameter _ => parameter.encode_conveys
  have fields := (((relation.map Link.mk).seq target (by decide)).seq method
    (by decide)).seq parameters (by decide)
  exact fields.conveys (by decide)

theorem WorkspaceConfig.encode_conveys (config : WorkspaceConfig) :
    config.encode.Conveys WorkspaceConfig.decode config := by
  have name := Spells.text "name" (some "") config.name
  have environment := Spells.text "defaultEnv" (some "")
    config.defaultEnvironment
  have fields := (name.map WorkspaceConfig.mk).seq environment (by decide)
  exact fields.conveys (by decide)

theorem Server.encode_conveys (server : Server) :
    server.encode.Conveys Server.decode server := by
  have reference := Spells.optionalText "ref" server.reference
  have address := Spells.optionalText "address" server.address
  have url := Spells.optionalText "url" server.url
  have protocol := Spells.optionalText "protocol" server.protocol
  have fields := (((reference.map Server.mk).seq address (by decide)).seq url
    (by decide)).seq protocol (by decide)
  exact fields.conveys (by decide)

theorem MachineConfig.encode_conveys (config : MachineConfig) :
    config.encode.Conveys MachineConfig.decode config := by
  have name := Spells.text "name" (some "") config.name
  exact (name.map MachineConfig.mk).conveys (by decide)

theorem MachineRuntime.encode_conveys (runtime : MachineRuntime) :
    runtime.encode.Conveys MachineRuntime.decode runtime := by
  have environment := Spells.dictionary "envVariables" runtime.environment
    fun entry _ => .text entry.2
  have servers := Spells.dictionary "servers" runtime.servers
    fun entry _ => entry.2.encode_conveys
  have fields := (environment.map MachineRuntime.mk).seq servers (by decide)
  exact fields.conveys (by decide)

theorem Machine.encode_conveys (machine : Machine) :
    machine.encode.Conveys Machine.decode machine := by
  have config : Spells (.field "config" MachineConfig.decode (some .empty))
      _ _ := .field machine.config.encode_conveys
  have runtime : Spells (.field "runtime" MachineRuntime.decode (some .empty))
      _ _ := .field machine.runtime.encode_conveys
  have fields := (config.map Machine.mk).seq runtime (by decide)
  exact fields.conveys (by decide)

theorem WorkspaceRuntime.encode_conveys (runtime : WorkspaceRuntime) :
    runtime.encode.Conveys WorkspaceRuntime.decode runtime := by
  have devMachine := Spells.optionalField "devMachine" runtime.devMachine
    (fun machine _ => machine.encode_conveys) nofun
  have machines := Spells.list "machines" runtime.machines
    fun machine _ => machine.encode_conveys
  have fields := (devMachine.map WorkspaceRuntime.mk).seq machines (by decide)
  exact fields.conveys (by decide)

theorem Workspace.encode_conveys (workspace : Workspace) :
    workspace.encode.Conveys Workspace.decode workspace := by
  have id : Spells (.field "id" WorkspaceId.decode none) _ _ :=
    .field workspace.id.encode_conveys
  have status : Spells (.field "status" Status.decode none) _ _ :=
    .field workspace.status.encode_conveys
  have config : Spells (.field "config" WorkspaceConfig.decode (some .empty))
      _ _ := .field workspace.config.encode_conveys
  have links := Spells.list "links" workspace.links
    fun link _ => link.encode_conveys
  have runtime := Spells.optionalField "runtime" workspace.runtime
    (fun runtime _ => runtime.encode_conveys) nofun
  have fields := ((((id.map Workspace.mk).seq status (by decide)).seq config
    (by decide)).seq links (by decide)).seq runtime (by decide)
  exact fields.conveys (by decide)

theorem StartResult.encode_conveys (result : StartResult) :
    result.encode.Conveys StartResult.decode result := by
  have id : Spells (.field "id" WorkspaceId.decode none) _ _ :=
    .field result.id.encode_conveys
  have links := Spells.list "links" result.links
    fun link _ => link.encode_conveys
  have fields := (id.map StartResult.mk).seq links (by decide)
  exact fields.conveys (by decide)

theorem StatusChange.encode_conveys (change : StatusChange) :
    change.encode.Conveys StatusChange.decode change := by
  have id : Spells (.field "workspaceId" WorkspaceId.decode none) _ _ :=
    .field change.workspaceId.encode_conveys
  have status : Spells (.field "status" Status.decode none) _ _ :=
    .field change.status.encode_conveys
  have error := Spells.optionalText "error" change.error
  have fields := ((id.map StatusChange.mk).seq status (by decide)).seq error
    (by decide)
  exact fields.conveys (by decide)

end WorkspaceStartup
