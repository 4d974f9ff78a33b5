import WorkspaceStartup.Failure
import WorkspaceStartup.Json.Record
import WorkspaceStartup.Workspace.Wire

/-!
# Events

What a startup announces to whoever shows it: the progress of the steps, the
attempts to connect, and how the start ended.  On the wire an event is an
object whose member `type` holds its tag beside the fields of its kind.
-/

namespace WorkspaceStartup

open Json

inductive Event
  /-- The workspace moves to the top of the recent ones. -/
  | recentUpdated (id : WorkspaceId)
  | listRefresh (id : WorkspaceId)
  | stepAdvanced (id : WorkspaceId) (step : Nat)
  | stepLogged (id : WorkspaceId) (step : Nat) (line : String)
  | stepFailed (id : WorkspaceId) (step : Nat)
  | connectAttempted (id : WorkspaceId) (attempt remaining : Nat)
  | agentConnected (id : WorkspaceId) (url : String)
  | startSucceeded (id : WorkspaceId)
  | startFailed (id : WorkspaceId) (phase : Phase) (message : String)
  | superseded (id : WorkspaceId) (generation : Nat)
  deriving DecidableEq, Repr

namespace Event

def workspaceId : Event → WorkspaceId
  | recentUpdated id | listRefresh id | stepAdvanced id _ | stepLogged id _ _
  | stepFailed id _ | connectAttempted id _ _ | agentConnected id _
  | startSucceeded id | startFailed id _ _ | superseded id _ => id

def word : Event → String
  | recentUpdated _ => "recent_workspace_updated"
  | listRefresh _ => "workspace_list_refresh"
  | stepAdvanced _ _ => "step_advanced"
  | stepLogged _ _ _ => "step_log"
  | stepFailed _ _ => "step_error"
  | connectAttempted _ _ _ => "agent_connect_attempt"
  | agentConnected _ _ => "agent_connected"
  | startSucceeded _ => "start_succeeded"
  | startFailed _ _ _ => "start_failed"
  | superseded _ _ => "attempt_superseded"

def tag : Event → String
  | recentUpdated _ => "recent_workspace_updated"
  | listRefresh _ => "workspace_list_refresh"
  | stepAdvanced _ _ => "step_advanced"
  | stepLogged _ _ _ => "step_log"
  | stepFailed _ _ => "step_error"
  | connectAttempted _ _ _ => "agent_connect_attempt"
  | agentConnected _ _ => "agent_connected"
  | startSucceeded _ => "start_succeeded"
  | startFailed _ _ _ => "start_failed"
  | superseded _ _ => "attempt_superseded"

/-- The fields that only this kind of event has. -/
def details : Event → List (String × Json)
  | recentUpdated _ | listRefresh _ | startSucceeded _ => []
  | stepAdvanced _ step | stepFailed _ step => [("step", natural step)]
  | stepLogged _ step line => [("step", natural step), ("line", .text line)]
  | connectAttempted _ attempt remaining =>
      [("attempt", natural attempt), ("remaining", natural remaining)]
  | agentConnected _ url => [("url", .text url)]
  | startFailed _ phase message =>
      [("phase", phase.encode), ("message", .text message)]
  | superseded _ generation => [("generation", natural generation)]

def encode (event : Event) : Json :=
  .object (("type", .text event.tag) ::
    ("workspace_id", event.workspaceId.encode) :: event.details)

def idField : Record WorkspaceId :=
  .field "workspace_id" WorkspaceId.decode none

def stepField : Record Nat := .field "step" (Decode.natural wordLimit) none

def countField (name : String) : Record Nat :=
  .field name (Decode.natural halfWordLimit) none

def phaseField : Record Phase :=
  .field "phase" (Decode.choice Phase.ofWord? Decode.nothingOrEmpty) none

/-- The fields of each kind of event, under the tag of the kind. -/
def kinds : List (String × Record Event) :=
  [("recent_workspace_updated", recentUpdated <$> idField),
  ("workspace_list_refresh", listRefresh <$> idField),
  ("step_advanced", stepAdvanced <$> idField <*> stepField),
  ("step_log",
    stepLogged <$> idField <*> stepField <*> .field "line" Decode.text none),
  ("step_error", stepFailed <$> idField <*> stepField),
  ("agent_connect_attempt",
    connectAttempted <$> idField <*> countField "attempt"
      <*> countField "remaining"),
  ("agent_connected",
    agentConnected <$> idField <*> .field "url" Decode.text none),
  ("start_succeeded", startSucceeded <$> idField),
  ("start_failed",
    startFailed <$> idField <*> phaseField
      <*> .field "message" Decode.text none),
  ("attempt_superseded",
    superseded <$> idField
      <*> .field "generation" (Decode.natural wordLimit) none)]

/-- The kind that a draft in the place of the tag names. -/
def kindOf (tag : Draft) : Except Defect (Record Event) := do
  let word ← Decode.text tag
  Decode.named (fun word => lookUp? word kinds) word

/-- How deep the value of a field may be nested. -/
def fieldDepth : Nat := Draft.depthLimit - 1

/-- Fails with the first fault of a value. -/
def intact (draft : Draft) : Except Defect Unit :=
  match draft.force fieldDepth with
  | .ok _ => .ok ()
  | .error fault => .error (.ofFault fault)

def intactItems : List Draft → Except Defect Unit
  | [] => .ok ()
  | item :: items => do
      intact item
      intactItems items

/-- The kind of an event, once its tag has been met, and its other members. -/
def gather (kind : Option (Record Event)) :
    List (Draft × Draft) →
      Except Defect (Option (Record Event) × List (Draft × Draft))
  | [] => .ok (kind, [])
  | (label, draft) :: members => do
      let name ← Decode.name label
      if name = "type" then
        if kind.isSome then .error .unfit
        let kind ← kindOf draft
        gather (some kind) members
      else
        intact draft
        let (kind, others) ← gather kind members
        return (kind, (label, draft) :: others)

/-- What was gathered is known to be intact, so a defect in it is one of shape. -/
def ofGathered (kind : Record Event) (draft : Draft) : Except Defect Event :=
  match kind.decode draft with
  | .ok event => .ok event
  | .error _ => .error .unfit

/-- An event as an object, or as an array that starts with the word of its kind. -/
def decode : Decoder Event
  | .object members ending => do
      let (kind, others) ← gather none members
      Decode.noFault ending
      match kind with
      | some kind => ofGathered kind (.object others none)
      | none => .error .unfit
  | .array [] ending => do
      Decode.noFault ending
      .error .unfit
  | .array (tag :: items) ending => do
      let kind ← kindOf tag
      intactItems items
      Decode.noFault ending
      ofGathered kind (.array items none)
  | draft => .error (otherKind draft)

/-- The numbers of the event fit the words that the wire has for them. -/
def Representable : Event → Prop
  | stepAdvanced _ step | stepLogged _ step _ | stepFailed _ step =>
      step ≤ wordLimit
  | connectAttempted _ attempt remaining =>
      attempt ≤ halfWordLimit ∧ remaining ≤ halfWordLimit
  | superseded _ generation => generation ≤ wordLimit
  | recentUpdated _ | listRefresh _ | agentConnected _ _ | startSucceeded _
  | startFailed _ _ _ => True

end Event

/-- A fatal condition to be shown. -/
structure Report where
  phase : Phase
  message : String
  deriving DecidableEq, Repr

namespace Report

def encode (report : Report) : Json :=
  .object [("phase", report.phase.encode), ("message", .text report.message)]

def record : Record Report :=
  Report.mk
    <$> .field "phase" Phase.decode none
    <*> .field "message" Decode.text none

def decode : Decoder Report := record.decode

end Report

end WorkspaceStartup
