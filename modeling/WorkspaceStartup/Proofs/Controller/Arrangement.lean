import WorkspaceStartup.Proofs.Controller.Return
import WorkspaceStartup.Proofs.Workspace.Enumeration

/-!
# Runs that read details in an order

The details of a workspace name the servers of its machines in no order of their
own, and a controller may read them in any.  A move in an order does what the
same move does by name when it brings details that have only the server which the
order finds (`stepIn?_eq`).  So a run in an order is a run by name with its
details arranged, and whatever holds of all reachable controllers holds in every
order.
-/

namespace WorkspaceStartup

/-- The move with the details that it brings arranged. -/
def Move.arranged (orders : Machine.Orders) : Move → Move
  | .fetched start answer =>
      .fetched start (answer.map (Workspace.arranged orders))
  | move => move

@[simp] theorem Move.isBeginning_arranged (orders : Machine.Orders) (move : Move) :
    (move.arranged orders).isBeginning = move.isBeginning := by
  cases move <;> rfl

namespace Controller

open Machine

variable {config : Config} {controller next : Controller} {start : Nat}
  {attempt : Attempt} {moves : List Move} {move : Move} {orders : Orders}

/-- The service has answered with the details, whose servers come in the orders. -/
def locate (controller : Controller) (orders : Orders) (start : Nat)
    (attempt : Attempt) (workspace : Workspace) : Controller :=
  if controller.isCurrent attempt then
    match controller.config.strategy.resolveIn? orders workspace with
    | some url =>
        controller.takeTurn start attempt
          ((Reconnect.new url attempt.budget).proceed true)
    | none => controller.fail start attempt .endpointUnavailable
  else controller.fail start attempt .superseded

/-- The controller after a move that reads details in the orders. -/
def stepIn? (controller : Controller) (orders : Orders) :
    Move → Option Controller
  | .fetched start (.ok workspace) =>
      match controller.pending? start with
      | some (attempt, .fetching) =>
          some (controller.locate orders start attempt workspace)
      | _ => none
  | move => controller.step? move

/-- The controller after moves that all read details in the orders. -/
def runIn? (controller : Controller) (orders : Orders) :
    List Move → Option Controller
  | [] => some controller
  | move :: moves =>
      (controller.stepIn? orders move).bind fun next => next.runIn? orders moves

/-- Only the endpoint to which the details lead is of account. -/
theorem locate_eq_onFetched {workspace other : Workspace}
    (same : controller.config.strategy.resolveIn? orders workspace =
      controller.config.strategy.resolve? other) :
    controller.locate orders start attempt workspace =
      controller.onFetched start attempt (.ok other) := by
  rw [locate, same]
  rfl

theorem stepIn?_byName (controller : Controller) (move : Move) :
    controller.stepIn? Enumeration.byName move = controller.step? move := by
  cases move with
  | fetched start answer =>
      cases answer with
      | error => rfl
      | ok workspace =>
          simp only [stepIn?, locate_eq_onFetched
            (EndpointStrategy.resolveIn?_byName _ workspace)]
          rfl
  | begin | drop | publish | fire | started | watched | linked | woken
  | withdrawn | tick => rfl

theorem runIn?_byName (controller : Controller) (moves : List Move) :
    controller.runIn? Enumeration.byName moves = controller.run? moves := by
  induction moves generalizing controller with
  | nil => rfl
  | cons move moves induction =>
      rw [runIn?, run?, stepIn?_byName]
      exact Option.bind_congr fun next _ => induction next

/-- To read details in an order is to read arranged details by name. -/
theorem stepIn?_eq (controller : Controller) (orders : Orders) (move : Move) :
    controller.stepIn? orders move =
      controller.step? (move.arranged orders) := by
  cases move with
  | fetched start answer =>
      cases answer with
      | error => rfl
      | ok workspace =>
          simp only [stepIn?, locate_eq_onFetched
            (EndpointStrategy.resolve?_arranged _ orders workspace).symm]
          rfl
  | begin | drop | publish | fire | started | watched | linked | woken
  | withdrawn | tick => rfl

theorem runIn?_eq (controller : Controller) (orders : Orders)
    (moves : List Move) :
    controller.runIn? orders moves =
      controller.run? (moves.map (Move.arranged orders)) := by
  induction moves generalizing controller with
  | nil => rfl
  | cons move moves induction =>
      rw [runIn?, List.map_cons, run?, stepIn?_eq]
      exact Option.bind_congr fun next _ => induction next

theorem runIn?_append (controller : Controller) (orders : Orders)
    (earlier later : List Move) :
    controller.runIn? orders (earlier ++ later) =
      (controller.runIn? orders earlier).bind fun next =>
        next.runIn? orders later := by
  simp only [runIn?_eq, List.map_append, run?_append]

/-- The move of a run in the orders with which the call of a start returns. -/
structure ReturnIn (config : Config) (orders : Orders) (moves : List Move)
    (start : Nat) (result : Except StartFailure Unit) where
  earlier : List Move
  move : Move
  later : List Move
  before : Controller
  after : Controller
  split : moves = earlier ++ move :: later
  ran : (Controller.new config).runIn? orders earlier = some before
  taken : before.stepIn? orders move = some after
  pending : ∃ stage, before.call? start = some (.pending stage)
  returned : after.call? start = some (.returned result)

/-- Runs in any order stay among the reachable controllers. -/
theorem Reachable.runIn (reachable : Reachable config controller)
    (ran : controller.runIn? orders moves = some next) :
    Reachable config next := by
  rw [runIn?_eq] at ran
  exact reachable.run ran

end Controller

end WorkspaceStartup
