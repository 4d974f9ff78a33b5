import WorkspaceStartup.Bus
import WorkspaceStartup.Failure
import WorkspaceStartup.Text.Quoted
import WorkspaceStartup.Text.Split
import WorkspaceStartup.Workspace.Basic

/-!
# Attempts

An attempt to start a workspace holds the channels it has subscribed, so that
they can be given up together.  It may act only while it is current: it has
not been cancelled and its generation is the active one.
-/

namespace WorkspaceStartup

structure Attempt where
  workspaceId : WorkspaceId
  generation : Nat
  /-- How often the agent's link may be tried. -/
  budget : Nat
  cancelled : Bool
  /-- The channels held, in the order of their subscription. -/
  channels : List String
  deriving DecidableEq, Repr

namespace Attempt

/-- An attempt that holds no channel. -/
def new (workspaceId : WorkspaceId) (generation budget : Nat) : Attempt where
  workspaceId := workspaceId
  generation := generation
  budget := budget
  cancelled := false
  channels := []

/-- The attempt may act while the active generation is as given. -/
def isCurrent (attempt : Attempt) (active : Nat) : Bool :=
  !attempt.cancelled && active == attempt.generation

def holds (attempt : Attempt) (channel : String) : Bool :=
  attempt.channels.contains channel

/-- Subscribes a channel that the attempt does not hold yet. -/
def subscribe (attempt : Attempt) (bus : Bus Handler) (channel : String)
    (handler : Handler) : Except SubscriptionFailure (Attempt × Bus Handler) :=
  if channel.isEmpty then .error .emptyChannel
  else if attempt.holds channel then .error (.alreadySubscribed channel)
  else
    .ok ({ attempt with channels := attempt.channels ++ [channel] },
      bus.subscribe channel handler)

/-- Subscribes what can be subscribed, one channel after the other. -/
def subscribeEach (attempt : Attempt) (bus : Bus Handler) :
    List (String × Handler) → Attempt × Bus Handler
  | [] => (attempt, bus)
  | (channel, handler) :: others =>
      match attempt.subscribe bus channel handler with
      | .ok (attempt, bus) => attempt.subscribeEach bus others
      | .error _ => attempt.subscribeEach bus others

def teardown (attempt : Attempt) (bus : Bus Handler) : Attempt × Bus Handler :=
  ({ attempt with channels := [] }, attempt.channels.foldl Bus.unsubscribe bus)

/-- Withdraws the attempt: it is cancelled and holds nothing any more. -/
def invalidate (attempt : Attempt) (bus : Bus Handler) : Attempt × Bus Handler :=
  { attempt with cancelled := true }.teardown bus

/-- The attempt as shown to a person who looks for a defect. -/
def description (attempt : Attempt) : String :=
  "OrchestrationAttempt \x7b workspace_id: WorkspaceId(" ++
    Text.quoted attempt.workspaceId.text ++ "), generation: " ++
    Text.decimal attempt.generation ++ ", channels: [" ++
    Text.join ", " (attempt.channels.map Text.quoted) ++ "] \x7d"

end Attempt

end WorkspaceStartup
