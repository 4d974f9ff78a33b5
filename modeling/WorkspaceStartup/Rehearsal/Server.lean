import WorkspaceStartup.Service.Watch
import WorkspaceStartup.Session

/-!
# A scripted server

A server that is not there.  It listens at one place, gives the answers of its
script one after the other, and complains when the script is at its end.
Requests for any other place do not arrive.
-/

namespace WorkspaceStartup

/-- A place of the network, given by a host and a port. -/
structure Place where
  host : String
  port : Nat
  deriving DecidableEq, Repr

namespace Place

def text (place : Place) : String :=
  place.host ++ ":" ++ Text.decimal place.port

/-- A request for the URL arrives at the place. -/
def isPlaceOf (place : Place) (url : Url) : Bool :=
  url.scheme == "http" && url.hostText? == some place.host &&
    url.port == some place.port

end Place

/-- A server that answers from a script. -/
structure ScriptedServer where
  place : Place
  answers : List Answer
  /-- The requests that have arrived, the latest first. -/
  received : List Request
  /-- The lines that a session has told, the latest first. -/
  told : List String

namespace ScriptedServer

/-- The answer at the end of the script. -/
def exhausted : Answer := ⟨500, "script exhausted".toUTF8.toList⟩

def exchange : Transport (StateM ScriptedServer) := fun request server =>
  if server.place.isPlaceOf request.url then
    let server := { server with received := request :: server.received }
    match server.answers with
    | answer :: answers => (answer.reply, { server with answers := answers })
    | [] => (exhausted.reply, server)
  else (.error .unanswered, server)

/-- Makes a move of a watch, if it is possible. -/
def move (watch : StatusWatch) (move : StatusWatch.Move) : StatusWatch :=
  (watch.step? move).getD watch

/-- Carries a watch on, for a number of answers at most. -/
def followFor (service : Service) (id : WorkspaceId) :
    Nat → StatusWatch → StateM ScriptedServer StatusWatch
  | 0, watch => return watch
  | fuel + 1, watch => do
      let answer ← service.fetchDetails exchange id
      let answered := move watch (.answered answer)
      match answered.stage with
      | .pausing wakeTime =>
          let rested := move answered (.tick (wakeTime - answered.clock))
          followFor service id fuel (move rested .woken)
      | _ => return answered

/-- Watches for a status until the script or something before its end decides. -/
def watch (service : Service) (id : WorkspaceId) (target : Status)
    (interval : Nat) : StateM ScriptedServer StatusWatch := do
  let server ← get
  followFor service id (server.answers.length + 1) (.start target interval)

/-- The surroundings that the server is for a session without a bus or an agent. -/
def surroundings (number : Nat) : Surroundings (StateM ScriptedServer) where
  transport := exchange
  joinBus _ := return .error (.refused "nobody listens")
  attend controller := return controller
  tell line := modify fun server => { server with told := line :: server.told }
  drawNumber := return number

end ScriptedServer

end WorkspaceStartup
