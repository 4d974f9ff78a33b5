import WorkspaceStartup.Controller.Messages
import WorkspaceStartup.Controller.Start

/-!
# Moves of the controller

Everything that can happen to a controller is a move.  A move of a start
carries it from one wait to the next and is possible only when the start waits
for just that; where several moves are possible, any of them may be taken.
-/

namespace WorkspaceStartup

inductive Move
  /-- A workspace is to be started in an environment. -/
  | begin (id : WorkspaceId) (environment : String)
  /-- The caller of a start gives up waiting for it. -/
  | drop (start : Nat)
  | publish (channel body : String)
  | fire (position : Nat) (body : String)
  | started (start : Nat) (answer : Except ControlFailure StartResult)
  | watched (start : Nat) (answer : Except ControlFailure StatusChange)
  | fetched (start : Nat) (answer : Except ControlFailure Workspace)
  | linked (start : Nat) (outcome : Except LinkFailure Unit)
  /-- The wait after a failed try is over. -/
  | woken (start : Nat)
  /-- A waiting start notices that it has been superseded. -/
  | withdrawn (start : Nat)
  | tick (milliseconds : Nat)

namespace Controller

/-- The start and the stage of its call, if that is pending. -/
def pending? (controller : Controller) (start : Nat) : Option (Attempt × Stage) :=
  match controller.starts[start]? with
  | some entry =>
      match entry.call with
      | .pending stage => some (entry.attempt, stage)
      | _ => none
  | none => none

def step? (controller : Controller) : Move → Option Controller
  | .begin id environment => some (controller.begin id environment)
  | .drop start => do
      let _ ← controller.pending? start
      return controller.setCall start .dropped
  | .publish channel body => some (controller.publish channel body)
  | .fire position body => some (controller.fire position body)
  | .started start answer =>
      match controller.pending? start with
      | some (attempt, .starting) => some (controller.onStarted start attempt answer)
      | _ => none
  | .watched start answer =>
      match controller.pending? start with
      | some (attempt, .watching) => some (controller.onWatched start attempt answer)
      | _ => none
  | .fetched start answer =>
      match controller.pending? start with
      | some (attempt, .fetching) => some (controller.onFetched start attempt answer)
      | _ => none
  | .linked start outcome =>
      match controller.pending? start with
      | some (attempt, .opening run) =>
          some (controller.takeTurn start attempt (run.settle outcome))
      | _ => none
  | .woken start =>
      match controller.pending? start with
      | some (attempt, .waiting run wakeTime) =>
          if wakeTime ≤ controller.clock then
            some (controller.takeTurn start attempt
              (run.proceed (controller.isCurrent attempt)))
          else none
      | _ => none
  | .withdrawn start =>
      match controller.pending? start with
      -- An opening under way is seen to its end.
      | some (_, .opening _) => none
      | some (attempt, _) =>
          if attempt.cancelled then some (controller.fail start attempt .superseded)
          else none
      | none => none
  | .tick milliseconds =>
      some { controller with clock := controller.clock + milliseconds }

/-- The controller after moves that are all possible in turn. -/
def run? (controller : Controller) : List Move → Option Controller
  | [] => some controller
  | move :: moves => (controller.step? move).bind fun next => next.run? moves

/-- The controllers that moves can lead to from a new one. -/
inductive Reachable (config : Config) : Controller → Prop
  | new : Reachable config (.new config)
  | step {controller next : Controller} (move : Move)
      (before : Reachable config controller)
      (taken : controller.step? move = some next) : Reachable config next

end Controller

end WorkspaceStartup
