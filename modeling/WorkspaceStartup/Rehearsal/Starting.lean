import WorkspaceStartup.Controller.Move
import WorkspaceStartup.Rehearsal.Link
import WorkspaceStartup.Rehearsal.Service

/-!
# Rehearsing starts

A controller plays with a scripted service and a scripted link.  After each
cue everything happens that can happen at the present time; the clock moves
only when a cue says so, and then from the end of one wait to the next.
-/

namespace WorkspaceStartup

/-- A controller among scripted surroundings. -/
structure Starting where
  controller : Controller
  service : ScriptedService
  link : ScriptedLink
  /-- The starts that wait at a start gate, in order, with the gate's number. -/
  atStartGate : List (Nat × Nat)
  /-- The starts that wait at a details gate, in order, with the gate's number. -/
  atDetailGate : List (Nat × Nat)
  /-- The starts whose opening of the link is under way, in order. -/
  atLink : List Nat
  /-- The starts whose status watches began before the present cue. -/
  watchers : List Nat

namespace Starting

def new (config : Config) (link : ScriptedLink) : Starting where
  controller := .new config
  service := .new
  link := link
  atStartGate := []
  atDetailGate := []
  atLink := []
  watchers := []

/-- The start waits nowhere any more. -/
def leave (play : Starting) (start : Nat) : Starting :=
  { play with
    atStartGate := play.atStartGate.filter (·.1 != start)
    atDetailGate := play.atDetailGate.filter (·.1 != start)
    atLink := play.atLink.filter (· != start) }

/-- Passes a start gate with a stored permit, or lines up before it. -/
def arriveAtStartGate (play : Starting) (start : Nat) (id : WorkspaceId) :
    Starting :=
  match play.service.startGates.get? id.text with
  | none => play
  | some gate =>
      if 0 < gate.permits then
        { play with
          service := play.service.setStartGate id { gate with permits := 0 } }
      else
        { play with atStartGate := play.atStartGate ++ [(start, gate.number)] }

/-- Passes a details gate with one of its permits, or lines up before it. -/
def arriveAtDetailGate (play : Starting) (start : Nat) (id : WorkspaceId) :
    Starting :=
  match play.service.detailGates.get? id.text with
  | none => play
  | some gate =>
      if 0 < gate.permits then
        { play with
          service := play.service.setDetailGate id
            { gate with permits := gate.permits - 1 } }
      else
        { play with atDetailGate := play.atDetailGate ++ [(start, gate.number)] }

/-- Lines a start up for what its call waits for. -/
def arrive (play : Starting) (start : Nat) : Starting :=
  match play.controller.pending? start with
  | some (attempt, .starting) => play.arriveAtStartGate start attempt.workspaceId
  | some (attempt, .fetching) => play.arriveAtDetailGate start attempt.workspaceId
  | some (_, .opening _) => { play with atLink := play.atLink ++ [start] }
  | _ => play

/-- Makes a move of the controller, if it is possible. -/
def move (play : Starting) (move : Move) : Starting :=
  { play with controller := (play.controller.step? move).getD play.controller }

/-- Carries a start from one wait to the next. -/
def carry (play : Starting) (start : Nat) (move : Move) : Starting :=
  ((play.leave start).move move).arrive start

/-- How the status watches of a start have ended, if they have. -/
def watched? (play : Starting) (start : Nat) (id : WorkspaceId) :
    Option (Except ControlFailure StatusChange) :=
  let failure? :=
    if play.watchers.contains start then none
    else
      (play.service.watchFailure? id .running).or
        (play.service.watchFailure? id .error)
  match failure? with
  | some failure => some (.error failure)
  | none => (play.service.statusAnswer? id [.running, .error]).map .ok

/-- The play after a start has gone on, if it can go on at the present time. -/
def goOn? (play : Starting) (start : Nat) : Option Starting :=
  match play.controller.pending? start with
  | none => none
  | some (_, .opening _) =>
      -- A gated link lets openings through in the order of their arrival.
      if (!play.link.gated || play.atLink.head? == some start) &&
          play.link.isOpen then
        let (outcome, link) := play.link.play
        some ({ play with link := link }.carry start (.linked start outcome))
      else none
  | some (attempt, stage) =>
      let id := attempt.workspaceId
      if attempt.cancelled then some (play.carry start (.withdrawn start))
      else
        match stage with
        | .starting =>
            if (play.atStartGate.find? (·.1 == start)).isSome then none
            else
              some (play.carry start
                (.started start (play.service.startAnswer id)))
        | .watching =>
            (play.watched? start id).map fun answer =>
              play.carry start (.watched start answer)
        | .fetching =>
            if (play.atDetailGate.find? (·.1 == start)).isSome then none
            else
              let counted :=
                { play with service := play.service.countDetails }
              some (counted.carry start
                (.fetched start (play.service.detailsAnswer id)))
        | .waiting _ wakeTime =>
            if wakeTime ≤ play.controller.clock then
              some (play.carry start (.woken start))
            else none
        | .opening _ => none

/-- The positions of all starts, the latest first. -/
def positions (play : Starting) : List Nat :=
  (List.range play.controller.starts.length).reverse

/-- Lets the first start go on that can. -/
def next? (play : Starting) : Option Starting :=
  play.positions.findSome? play.goOn?

def settleFor (play : Starting) : Nat → Starting
  | 0 => play
  | fuel + 1 =>
      match play.next? with
      | some next => next.settleFor fuel
      | none => play

/-- Bounds how often a start can still go on. -/
def callMeasure (start : Start) : Nat :=
  match start.call with
  | .pending (.opening run) | .pending (.waiting run _) => 2 * run.remaining + 2
  | .pending _ => 2 * start.attempt.budget + 8
  | _ => 0

/-- Bounds how often any start can still go on. -/
def measure (play : Starting) : Nat :=
  play.controller.starts.foldr (fun start bound => callMeasure start + bound) 0

/-- Everything that happens at the present time. -/
def settle (play : Starting) : Starting :=
  play.settleFor play.measure

/-- The starts whose calls watch for a status. -/
def watching (play : Starting) : List Nat :=
  play.positions.filter fun start =>
    match play.controller.pending? start with
    | some (_, .watching) => true
    | _ => false

/-- Everything that happens after a cue. -/
def conclude (play : Starting) : Starting :=
  let settled := play.settle
  { settled with watchers := settled.watching }

/-- A workspace is to be started. -/
def start (play : Starting) (workspace : Workspace) : Starting :=
  let position := play.controller.starts.length
  let begun :=
    play.move (.begin workspace.id workspace.config.defaultEnvironment)
  (begun.arrive position).conclude

/-- The caller of a start gives up. -/
def abort (play : Starting) (start : Nat) : Starting :=
  ((play.leave start).move (.drop start)).conclude

def publish (play : Starting) (channel body : String) : Starting :=
  (play.move (.publish channel body)).conclude

def fire (play : Starting) (position : Nat) (body : String) : Starting :=
  (play.move (.fire position body)).conclude

/-- The service reports a status. -/
def reportStatus (play : Starting) (change : StatusChange) : Starting :=
  { play with service := play.service.setStatus change }.conclude

/-- The service is told something without a consequence at the present time. -/
def instruct (play : Starting) (change : ScriptedService → ScriptedService) :
    Starting :=
  { play with service := change play.service }.conclude

/-- The first start in a line that waits at the gate of a number. -/
def firstAt? (gate : Gate) (line : List (Nat × Nat)) : Option (Nat × Nat) :=
  line.find? fun waiting => waiting.2 == gate.number

/-- Lets one start through a start gate, or stores the only permit it keeps. -/
def releaseStart (play : Starting) (id : WorkspaceId) : Starting :=
  match play.service.startGates.get? id.text with
  | none => play.conclude
  | some gate =>
      match firstAt? gate play.atStartGate with
      | some waiting =>
          { play with atStartGate := play.atStartGate.erase waiting }.conclude
      | none =>
          play.instruct fun service =>
            service.setStartGate id { gate with permits := 1 }

/-- Lets one start through a details gate, or stores one more permit. -/
def releaseDetails (play : Starting) (id : WorkspaceId) : Starting :=
  match play.service.detailGates.get? id.text with
  | none => play.conclude
  | some gate =>
      match firstAt? gate play.atDetailGate with
      | some waiting =>
          { play with atDetailGate := play.atDetailGate.erase waiting }.conclude
      | none =>
          play.instruct fun service =>
            service.setDetailGate id { gate with permits := gate.permits + 1 }

/-- Adds a permit for a gated link. -/
def releaseLink (play : Starting) : Starting :=
  { play with link := play.link.release }.conclude

/-- The end of the wait that ends first, if any ends up to a time. -/
def nextWake? (play : Starting) (limit : Nat) : Option Nat :=
  (play.positions.filterMap fun start =>
    match play.controller.pending? start with
    | some (_, .waiting _ wakeTime) => if wakeTime ≤ limit then some wakeTime else none
    | _ => none).min?

def reach (play : Starting) (time : Nat) : Starting :=
  (play.move (.tick (time - play.controller.clock))).settle

def advanceFor (play : Starting) (time : Nat) : Nat → Starting
  | 0 => play
  | fuel + 1 =>
      match play.nextWake? time with
      | some wakeTime => (play.reach wakeTime).advanceFor time fuel
      | none => play

def advance (play : Starting) (milliseconds : Nat) : Starting :=
  let time := play.controller.clock + milliseconds
  ((play.advanceFor time play.measure).reach time).conclude

end Starting

end WorkspaceStartup
