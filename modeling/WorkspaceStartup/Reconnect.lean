import WorkspaceStartup.Failure

/-!
# Connection runs

A run tries to open the agent's link until it succeeds or its budget of tries
is spent.  Even an empty budget allows one try.  The turns of a run are kept
apart from the waiting between them, which belongs to whoever drives the run.
-/

namespace WorkspaceStartup

/-- A run: its target, the tries made, and the tries that remain. -/
structure Reconnect where
  url : String
  made : Nat
  remaining : Nat
  deriving DecidableEq, Repr

namespace Reconnect

/-- How often a run may try by default. -/
def defaultBudget : Nat := 50

/-- How many milliseconds a run waits after a failed try by default. -/
def defaultDelay : Nat := 1000

/-- The longest wait after a failed try: thirty years, in milliseconds. -/
def longestWait : Nat := 946080000000

/-- When a wait that begins now is over. -/
def wakeTime (now delay : Nat) : Nat := now + min delay longestWait

def new (url : String) (budget : Nat) : Reconnect := ⟨url, 0, max budget 1⟩

inductive Turn
  /-- The link is being opened; the try is already counted. -/
  | opening (run : Reconnect)
  | waiting (run : Reconnect)
  | connected (url : String)
  | exhausted (attempts : Nat) (last : LinkFailure)
  | cancelled
  deriving DecidableEq, Repr

/-- Tries to open the link, as long as the attempt behind the run is current. -/
def proceed (run : Reconnect) (current : Bool) : Turn :=
  if current then .opening { run with made := run.made + 1 } else .cancelled

/-- Takes in how the try under way has ended. -/
def settle (run : Reconnect) : Except LinkFailure Unit → Turn
  | .ok () => .connected run.url
  | .error failure =>
      let remaining := run.remaining - 1
      if 0 < remaining then .waiting { run with remaining := remaining }
      else .exhausted run.made failure

end Reconnect

end WorkspaceStartup
