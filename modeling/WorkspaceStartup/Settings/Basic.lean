import WorkspaceStartup.Json.Record
import WorkspaceStartup.Reconnect
import WorkspaceStartup.Url.Part

/-!
# Settings

What a user can choose, with a default for everything.  On the wire settings
are an object in which every member may be absent.
-/

namespace WorkspaceStartup

open Json

structure LoggingSettings where
  level : String
  /-- Log records are written as JSON. -/
  json : Bool
  /-- The levels of single modules. -/
  modules : Dictionary String
  deriving DecidableEq

structure Settings where
  serverUrl : String
  /-- The URL of the message bus, if it is not to be made from the service's. -/
  busUrl : Option String
  reconnectBudget : Nat
  retryDelayMs : Nat
  statusPollMs : Nat
  agentConnectTimeoutMs : Nat
  logging : LoggingSettings
  deriving DecidableEq

namespace LoggingSettings

def default : LoggingSettings := ⟨"info", false, .empty⟩

def encode (settings : LoggingSettings) : Json :=
  .object [("json", .bool settings.json), ("level", .text settings.level),
    ("modules", .object (settings.modules.entries.map fun entry =>
      (entry.1, .text entry.2)))]

def record : Record LoggingSettings :=
  LoggingSettings.mk
    <$> .field "level" Decode.text (some default.level)
    <*> .field "json" Decode.bool (some default.json)
    <*> .field "modules" (Decode.dictionary Decode.text) (some default.modules)

def decode : Decoder LoggingSettings := record.decode

end LoggingSettings

namespace Settings

def default : Settings where
  serverUrl := "http://localhost:8080"
  busUrl := none
  reconnectBudget := Reconnect.defaultBudget
  retryDelayMs := Reconnect.defaultDelay
  statusPollMs := 1000
  agentConnectTimeoutMs := 10000
  logging := .default

def encode (settings : Settings) : Json :=
  .object [("agentConnectTimeoutMs", natural settings.agentConnectTimeoutMs),
    ("busUrl", ofOption .text settings.busUrl),
    ("logging", settings.logging.encode),
    ("reconnectBudget", natural settings.reconnectBudget),
    ("retryDelayMs", natural settings.retryDelayMs),
    ("serverUrl", .text settings.serverUrl),
    ("statusPollMs", natural settings.statusPollMs)]

def record : Record Settings :=
  Settings.mk
    <$> .field "serverUrl" Decode.text (some default.serverUrl)
    <*> .field "busUrl" (Decode.optional Decode.text) (some default.busUrl)
    <*> .field "reconnectBudget" (Decode.natural halfWordLimit)
      (some default.reconnectBudget)
    <*> .field "retryDelayMs" (Decode.natural wordLimit)
      (some default.retryDelayMs)
    <*> .field "statusPollMs" (Decode.natural wordLimit)
      (some default.statusPollMs)
    <*> .field "agentConnectTimeoutMs" (Decode.natural wordLimit)
      (some default.agentConnectTimeoutMs)
    <*> .field "logging" LoggingSettings.decode (some default.logging)

def decode : Decoder Settings := record.decode

/-- The scheme of the socket that is made from a URL of a scheme. -/
def socketScheme? (scheme : String) : Option String :=
  if scheme = "http" ∨ scheme = "ws" then some "ws"
  else if scheme = "https" ∨ scheme = "wss" then some "wss"
  else none

/-- The URL of the message bus: the chosen one, or a socket of the service. -/
def effectiveBusUrl? (settings : Settings) : Option String :=
  match settings.busUrl.filter fun url => !url.isEmpty with
  | some url => some url
  | none => do
      let url ← Url.parse? settings.serverUrl
      let scheme ← socketScheme? url.scheme
      let socket ← url.withScheme? scheme
      return (socket.below "/api/ws").text

end Settings

end WorkspaceStartup
