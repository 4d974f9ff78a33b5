import WorkspaceStartup.Json.Record
import WorkspaceStartup.Workspace.Basic

/-!
# Workspaces as the service writes them

Each type has an encoding and a decoding.  Absent optional fields are left out
of the encoding.  A decoder takes absent fields for empty ones, apart from the
identity and the status of a workspace and the relation of a link.
-/

namespace WorkspaceStartup

open Json

namespace WorkspaceId

def encode (id : WorkspaceId) : Json := .text id.text

def decode : Decoder WorkspaceId := fun draft =>
  (Decode.text draft).map WorkspaceId.mk

end WorkspaceId

namespace Status

def encode (status : Status) : Json := .text status.word

def decode : Decoder Status := Decode.choice ofWord? Decode.nothing

end Status

namespace LinkParameter

def encode (parameter : LinkParameter) : Json :=
  .object (("name", .text parameter.name) ::
    optionalMember "defaultValue" .text parameter.defaultValue)

def record : Record LinkParameter :=
  LinkParameter.mk
    <$> .field "name" Decode.text (some "")
    <*> .field "defaultValue" (Decode.optional Decode.text) (some none)

def decode : Decoder LinkParameter := record.decode

end LinkParameter

namespace Link

def encode (link : Link) : Json :=
  .object (("rel", .text link.relation) :: ("href", .text link.target) ::
    (optionalMember "method" .text link.method ++
      [("parameters", .array (link.parameters.map LinkParameter.encode))]))

def record : Record Link :=
  Link.mk
    <$> .field "rel" Decode.text none
    <*> .field "href" Decode.text (some "")
    <*> .field "method" (Decode.optional Decode.text) (some none)
    <*> .field "parameters" (Decode.list LinkParameter.decode) (some [])

def decode : Decoder Link := record.decode

end Link

namespace WorkspaceConfig

def empty : WorkspaceConfig := ⟨"", ""⟩

def encode (config : WorkspaceConfig) : Json :=
  .object [("name", .text config.name),
    ("defaultEnv", .text config.defaultEnvironment)]

def record : Record WorkspaceConfig :=
  WorkspaceConfig.mk
    <$> .field "name" Decode.text (some "")
    <*> .field "defaultEnv" Decode.text (some "")

def decode : Decoder WorkspaceConfig := record.decode

end WorkspaceConfig

namespace Server

def encode (server : Server) : Json :=
  .object (optionalMember "ref" .text server.reference ++
    optionalMember "address" .text server.address ++
    optionalMember "url" .text server.url ++
    optionalMember "protocol" .text server.protocol)

def record : Record Server :=
  Server.mk
    <$> .field "ref" (Decode.optional Decode.text) (some none)
    <*> .field "address" (Decode.optional Decode.text) (some none)
    <*> .field "url" (Decode.optional Decode.text) (some none)
    <*> .field "protocol" (Decode.optional Decode.text) (some none)

def decode : Decoder Server := record.decode

end Server

namespace MachineConfig

def empty : MachineConfig := ⟨""⟩

def encode (config : MachineConfig) : Json :=
  .object [("name", .text config.name)]

def record : Record MachineConfig :=
  MachineConfig.mk <$> .field "name" Decode.text (some "")

def decode : Decoder MachineConfig := record.decode

end MachineConfig

namespace MachineRuntime

def empty : MachineRuntime := ⟨.empty, .empty⟩

def encode (runtime : MachineRuntime) : Json :=
  .object
    [("envVariables", .object (runtime.environment.entries.map fun entry =>
      (entry.1, .text entry.2))),
    ("servers", .object (runtime.servers.entries.map fun entry =>
      (entry.1, entry.2.encode)))]

def record : Record MachineRuntime :=
  MachineRuntime.mk
    <$> .field "envVariables" (Decode.dictionary Decode.text) (some .empty)
    <*> .field "servers" (Decode.dictionary Server.decode) (some .empty)

def decode : Decoder MachineRuntime := record.decode

end MachineRuntime

namespace Machine

def empty : Machine := ⟨.empty, .empty⟩

def encode (machine : Machine) : Json :=
  .object [("config", machine.config.encode), ("runtime", machine.runtime.encode)]

def record : Record Machine :=
  Machine.mk
    <$> .field "config" MachineConfig.decode (some .empty)
    <*> .field "runtime" MachineRuntime.decode (some .empty)

def decode : Decoder Machine := record.decode

end Machine

namespace WorkspaceRuntime

def encode (runtime : WorkspaceRuntime) : Json :=
  .object (optionalMember "devMachine" Machine.encode runtime.devMachine ++
    [("machines", .array (runtime.machines.map Machine.encode))])

def record : Record WorkspaceRuntime :=
  WorkspaceRuntime.mk
    <$> .field "devMachine" (Decode.optional Machine.decode) (some none)
    <*> .field "machines" (Decode.list Machine.decode) (some [])

def decode : Decoder WorkspaceRuntime := record.decode

end WorkspaceRuntime

namespace Workspace

def encode (workspace : Workspace) : Json :=
  .object (("id", workspace.id.encode) :: ("status", workspace.status.encode) ::
    ("config", workspace.config.encode) ::
    ("links", .array (workspace.links.map Link.encode)) ::
    optionalMember "runtime" WorkspaceRuntime.encode workspace.runtime)

def record : Record Workspace :=
  Workspace.mk
    <$> .field "id" WorkspaceId.decode none
    <*> .field "status" Status.decode none
    <*> .field "config" WorkspaceConfig.decode (some .empty)
    <*> .field "links" (Decode.list Link.decode) (some [])
    <*> .field "runtime" (Decode.optional WorkspaceRuntime.decode) (some none)

def decode : Decoder Workspace := record.decode

end Workspace

namespace StartResult

def encode (result : StartResult) : Json :=
  .object [("id", result.id.encode),
    ("links", .array (result.links.map Link.encode))]

def record : Record StartResult :=
  StartResult.mk
    <$> .field "id" WorkspaceId.decode none
    <*> .field "links" (Decode.list Link.decode) (some [])

def decode : Decoder StartResult := record.decode

end StartResult

namespace StatusChange

def encode (change : StatusChange) : Json :=
  .object (("workspaceId", change.workspaceId.encode) ::
    ("status", change.status.encode) ::
    optionalMember "error" .text change.error)

def record : Record StatusChange :=
  StatusChange.mk
    <$> .field "workspaceId" WorkspaceId.decode none
    <*> .field "status" Status.decode none
    <*> .field "error" (Decode.optional Decode.text) (some none)

def decode : Decoder StatusChange := record.decode

end StatusChange

end WorkspaceStartup
