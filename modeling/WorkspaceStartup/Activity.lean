import WorkspaceStartup.Failure
import WorkspaceStartup.Text.Split
import WorkspaceStartup.Workspace.Basic

/-!
# Activity

The development environment announces that somebody works in a workspace.  The
announcement names the workspace after a marker, and is passed on to the
service so that the workspace is not stopped.
-/

namespace WorkspaceStartup.Activity

/-- What stands before the name of the workspace. -/
def marker : String := "workspace-activity:"

/-- The workspace that a message names after the first marker in it. -/
def parse? (message : String) : Option WorkspaceId := do
  let (_, rest) ← Text.cutFirst? marker.toList message.toList
  let name := Text.dropAroundWhile Text.isBlank rest
  if name.isEmpty then none else some ⟨String.ofList name⟩

/-- Passes the activity that a message names on to the service, in any monad. -/
def handle [Monad m]
    (record : WorkspaceId → m (Except ControlFailure Unit)) (message : String) :
    m (Option (Except ControlFailure Unit)) :=
  match parse? message with
  | some id => do
      let result ← record id
      return some result
  | none => return none

end WorkspaceStartup.Activity
