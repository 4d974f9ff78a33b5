import WorkspaceStartup.Attempt

/-!
# Attempts over one bus

Any number of attempts share a bus and the active generation.  An attempt is
known by handles; a copied handle stands for the same attempt.  The handlers
on the bus are numbers, so that it can be told which of them was called.
-/

namespace WorkspaceStartup

/-- Attempts over one bus, and the handles by which they are known. -/
structure Roster where
  generation : Nat
  bus : Bus Nat
  attempts : List Attempt
  /-- The position of the attempt that each handle stands for. -/
  handles : List Nat

namespace Roster

def new (generation : Nat) : Roster := ⟨generation, .empty, [], []⟩

/-- Adds an attempt with a handle of its own. -/
def add (roster : Roster) (attempt : Attempt) : Roster :=
  { roster with
    attempts := roster.attempts ++ [attempt]
    handles := roster.handles ++ [roster.attempts.length] }

def copy (roster : Roster) (handle : Nat) : Roster :=
  { roster with
    handles := roster.handles ++ roster.handles[handle]?.toList }

def attempt? (roster : Roster) (handle : Nat) : Option Attempt :=
  roster.handles[handle]?.bind fun position => roster.attempts[position]?

/-- The attempts in the order of their handles. -/
def attemptsByHandle (roster : Roster) : List Attempt :=
  roster.handles.filterMap fun position => roster.attempts[position]?

/-- Puts the attempt of a handle and the bus into a new state. -/
def put (roster : Roster) (handle : Nat) (state : Attempt × Bus Nat) : Roster :=
  match roster.handles[handle]? with
  | some position =>
      { roster with
        attempts := roster.attempts.set position state.1
        bus := state.2 }
  | none => roster

def subscribe (roster : Roster) (handle : Nat) (channel : String)
    (handler : Nat) : Except SubscriptionFailure Roster :=
  match roster.attempt? handle with
  | none => .ok roster
  | some attempt =>
      (attempt.subscribe roster.bus channel handler).map (roster.put handle)

def teardown (roster : Roster) (handle : Nat) : Roster :=
  match roster.attempt? handle with
  | none => roster
  | some attempt => roster.put handle (attempt.teardown roster.bus)

def invalidate (roster : Roster) (handle : Nat) : Roster :=
  match roster.attempt? handle with
  | none => roster
  | some attempt => roster.put handle (attempt.invalidate roster.bus)

/-- The handler that a message on a channel is delivered to. -/
def delivery? (roster : Roster) (channel : String) : Option Nat :=
  roster.bus.handler? channel

/-- Something that can be asked of the attempts and of the bus they share. -/
inductive Operation
  | add (id : WorkspaceId) (generation budget : Nat)
  | copy (handle : Nat)
  /-- The active generation becomes another one. -/
  | activate (generation : Nat)
  | subscribe (handle : Nat) (channel : String) (handler : Nat)
  | teardown (handle : Nat)
  | invalidate (handle : Nat)
  | publish (channel body : String)
  deriving DecidableEq, Repr

inductive Answer
  | done
  | refused (failure : SubscriptionFailure)
  /-- So many channels were given up. -/
  | tornDown (count : Nat)
  /-- The handler that was called, and with which message. -/
  | delivered (delivery : Option (Nat × String))
  deriving DecidableEq, Repr

/-- The roster after an operation, and what the operation answers. -/
def perform (roster : Roster) : Operation → Roster × Answer
  | .add id generation budget => (roster.add (.new id generation budget), .done)
  | .copy handle => (roster.copy handle, .done)
  | .activate generation => ({ roster with generation := generation }, .done)
  | .subscribe handle channel handler =>
      match roster.subscribe handle channel handler with
      | .ok next => (next, .done)
      | .error failure => (roster, .refused failure)
  | .teardown handle =>
      (roster.teardown handle,
        .tornDown (((roster.attempt? handle).map (·.channels.length)).getD 0))
  | .invalidate handle => (roster.invalidate handle, .done)
  | .publish channel body =>
      (roster, .delivered ((roster.delivery? channel).map fun handler =>
        (handler, body)))

/-- The roster after operations that are performed one after the other. -/
def run (roster : Roster) (operations : List Operation) : Roster :=
  operations.foldl (fun roster operation => (roster.perform operation).1) roster

end Roster

end WorkspaceStartup
