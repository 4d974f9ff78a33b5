import WorkspaceStartup.Reconnect
import WorkspaceStartup.Workspace.Basic

/-!
# Watching for a status

A watch asks the service for the details of a workspace again and again, with
a pause after each answer.  It ends with the first answer that shows the
wanted status, or with the first failure; it goes on for ever when neither
comes.
-/

namespace WorkspaceStartup

inductive WatchStage
  /-- A request waits for its answer. -/
  | asking
  | pausing (wakeTime : Nat)
  | ended (result : Except ControlFailure StatusChange)

structure StatusWatch where
  target : Status
  /-- How many milliseconds pass between an answer and the next request. -/
  interval : Nat
  clock : Nat
  /-- The times at which requests were made, the latest first. -/
  asked : List Nat
  stage : WatchStage

namespace StatusWatch

/-- A watch that has just made its first request. -/
def start (target : Status) (interval : Nat) : StatusWatch where
  target := target
  interval := interval
  clock := 0
  asked := [0]
  stage := .asking

/-- What an answer decides, if it decides anything. -/
def decide? (target : Status) :
    Except ControlFailure Workspace → Option (Except ControlFailure StatusChange)
  | .error failure => some (.error failure)
  | .ok workspace =>
      if workspace.status = target then
        some (.ok ⟨workspace.id, workspace.status, none⟩)
      else none

inductive Move
  | answered (answer : Except ControlFailure Workspace)
  /-- The pause is over. -/
  | woken
  | tick (milliseconds : Nat)

def step? (watch : StatusWatch) : Move → Option StatusWatch
  | .answered answer =>
      match watch.stage with
      | .asking =>
          match decide? watch.target answer with
          | some result => some { watch with stage := .ended result }
          | none =>
              let wakeTime := Reconnect.wakeTime watch.clock watch.interval
              some { watch with stage := .pausing wakeTime }
      | _ => none
  | .woken =>
      match watch.stage with
      | .pausing wakeTime =>
          if wakeTime ≤ watch.clock then
            some { watch with asked := watch.clock :: watch.asked, stage := .asking }
          else none
      | _ => none
  | .tick milliseconds => some { watch with clock := watch.clock + milliseconds }

/-- How the watch has ended, if it has. -/
def result? (watch : StatusWatch) : Option (Except ControlFailure StatusChange) :=
  match watch.stage with
  | .ended result => some result
  | _ => none

end StatusWatch

end WorkspaceStartup
