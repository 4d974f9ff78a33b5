import WorkspaceStartup.Attempt
import WorkspaceStartup.Journal
import WorkspaceStartup.Reconnect

/-!
# Connecting on behalf of an attempt

One connection run, from its first try to its end, for an attempt that may
stop being current on the way.  The attempt's channels are given up when the
run connects or has spent its budget; a run that is cancelled leaves them.
-/

namespace WorkspaceStartup

inductive ConnectStage
  | opening (run : Reconnect)
  | waiting (run : Reconnect) (wakeTime : Nat)
  | ended (result : Except ConnectFailure String)

structure Connection (Handler : Type) where
  attempt : Attempt
  bus : Bus Handler
  generation : Nat
  /-- How many milliseconds the run is to wait after a failed try. -/
  retryDelay : Nat
  clock : Nat
  stage : ConnectStage
  /-- What was done, the latest first. -/
  journal : List Entry

namespace Connection

def enter (connection : Connection Handler) (deed : Deed) : Connection Handler :=
  { connection with
    journal := ⟨0, connection.clock, deed⟩ :: connection.journal }

def isCurrent (connection : Connection Handler) : Bool :=
  connection.attempt.isCurrent connection.generation

def teardown (connection : Connection Handler) : Connection Handler :=
  let (attempt, bus) := connection.attempt.teardown connection.bus
  { connection with attempt := attempt, bus := bus }

def takeTurn (connection : Connection Handler) :
    Reconnect.Turn → Connection Handler
  | .opening run =>
      { (connection.enter (.announced (.connectAttempted
          connection.attempt.workspaceId run.made run.remaining))).enter
          (.opened run.url) with stage := .opening run }
  | .waiting run =>
      { connection with
        stage :=
          .waiting run (Reconnect.wakeTime connection.clock connection.retryDelay) }
  | .connected url =>
      { (connection.enter (.connected url)).teardown with stage := .ended (.ok url) }
  | .exhausted attempts last =>
      { connection.teardown with stage := .ended (.error (.exhausted attempts last)) }
  | .cancelled => { connection with stage := .ended (.error .cancelled) }

/-- Starts a run to a URL with the budget of an attempt. -/
def start (attempt : Attempt) (bus : Bus Handler) (generation retryDelay : Nat)
    (url : String) : Connection Handler :=
  let run := Reconnect.new url attempt.budget
  let connection : Connection Handler :=
    { attempt := attempt
      bus := bus
      generation := generation
      retryDelay := retryDelay
      clock := 0
      -- The first turn replaces this stage.
      stage := .waiting run 0
      journal := [] }
  connection.takeTurn (run.proceed connection.isCurrent)

inductive Move
  | linked (outcome : Except LinkFailure Unit)
  /-- The wait after a failed try is over. -/
  | woken
  /-- The waiting run notices that its attempt has been cancelled. -/
  | withdrawn
  | invalidate
  | activate (generation : Nat)
  | tick (milliseconds : Nat)

def step? (connection : Connection Handler) : Move → Option (Connection Handler)
  | .linked outcome =>
      match connection.stage with
      | .opening run => some (connection.takeTurn (run.settle outcome))
      | _ => none
  | .woken =>
      match connection.stage with
      | .waiting run wakeTime =>
          if wakeTime ≤ connection.clock then
            some (connection.takeTurn (run.proceed connection.isCurrent))
          else none
      | _ => none
  | .withdrawn =>
      match connection.stage with
      | .waiting _ _ =>
          if connection.attempt.cancelled then some (connection.takeTurn .cancelled)
          else none
      | _ => none
  | .invalidate =>
      let (attempt, bus) := connection.attempt.invalidate connection.bus
      some { connection with attempt := attempt, bus := bus }
  | .activate generation => some { connection with generation := generation }
  | .tick milliseconds =>
      some { connection with clock := connection.clock + milliseconds }

end Connection

end WorkspaceStartup
