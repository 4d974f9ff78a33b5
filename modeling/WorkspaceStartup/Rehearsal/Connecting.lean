import WorkspaceStartup.Connection
import WorkspaceStartup.Rehearsal.Link

/-!
# Rehearsing a connection run

A connection run plays with a scripted link on a clock of its own.  Whatever
can happen at the present time happens at once; the clock moves on to the end
of a wait only when nothing else is left to do.
-/

namespace WorkspaceStartup

/-- A connection run among scripted surroundings. -/
structure Connecting where
  connection : Connection Unit
  link : ScriptedLink

namespace Connecting

/-- What is done to the run from outside. -/
inductive Cue
  | invalidate
  | activate (generation : Nat)
  | release
  deriving DecidableEq, Repr

def result? (play : Connecting) : Option (Except ConnectFailure String) :=
  match play.connection.stage with
  | .ended result => some result
  | _ => none

/-- Makes a move that is known to be possible. -/
def move (play : Connecting) (move : Connection.Move) : Connecting :=
  { play with connection := (play.connection.step? move).getD play.connection }

/--
The run after the next thing that happens up to a time, if there is one: a
move at the present time, or else the end of the wait under way.
-/
def next? (play : Connecting) (limit : Option Nat) : Option Connecting :=
  match play.connection.stage with
  | .ended _ => none
  | .opening _ =>
      if play.link.isOpen then
        let (outcome, link) := play.link.play
        some ({ play with link := link }.move (.linked outcome))
      else none
  | .waiting _ wakeTime =>
      if play.connection.attempt.cancelled then some (play.move .withdrawn)
      else if wakeTime ≤ play.connection.clock then some (play.move .woken)
      else
        match limit with
        | some limit =>
            if wakeTime ≤ limit then
              some (play.move (.tick (wakeTime - play.connection.clock)))
            else none
        | none => some (play.move (.tick (wakeTime - play.connection.clock)))

def playFor (play : Connecting) (limit : Option Nat) : Nat → Connecting
  | 0 => play
  | fuel + 1 =>
      match play.next? limit with
      | some next => next.playFor limit fuel
      | none => play

/-- Bounds the things that can still happen: each try takes at most three. -/
def measure (play : Connecting) : Nat :=
  match play.connection.stage with
  | .opening run | .waiting run _ => 3 * run.remaining + 3
  | .ended _ => 0

/-- Everything that happens up to a time, or until nothing happens any more. -/
def playUntil (play : Connecting) (limit : Option Nat) : Connecting :=
  play.playFor limit play.measure

/-- Lets the time come if the run has not ended before. -/
def reach (play : Connecting) (time : Nat) : Connecting :=
  match play.result? with
  | some _ => play
  | none => play.move (.tick (time - play.connection.clock))

def obey (play : Connecting) : Cue → Connecting
  | .invalidate => play.move .invalidate
  | .activate generation => play.move (.activate generation)
  | .release => { play with link := play.link.release }

/--
Plays the cues at their times; the clock stops when the run has ended.  A cue
whose time has come already is obeyed before anything else happens.
-/
def followCues (play : Connecting) : List (Nat × Cue) → Connecting
  | [] => play.playUntil none
  | (time, cue) :: cues =>
      let play :=
        if play.connection.clock < time then
          (play.playUntil (some time)).reach time
        else play
      (play.obey cue).followCues cues

/-- Plays a run from its start, with the cues at their times. -/
def follow (play : Connecting) (cues : List (Nat × Cue)) : Connecting :=
  (play.playUntil (some play.connection.clock)).followCues cues

/-- A rehearsal for an attempt that already holds what it can of some channels. -/
def start (attempt : Attempt) (channels : List String)
    (generation retryDelay : Nat) (url : String) (link : ScriptedLink) :
    Connecting :=
  let (attempt, bus) :=
    attempt.subscribeEach .empty (channels.map fun channel => (channel, ()))
  { connection := .start attempt bus generation retryDelay url
    link := link }

end Connecting

end WorkspaceStartup
