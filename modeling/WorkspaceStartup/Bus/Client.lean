import WorkspaceStartup.Bus.Frame
import WorkspaceStartup.Dictionary

/-!
# A client of the message bus

A client keeps the handlers of its channels and tells the bus, in frames,
which channels it wants.  A message goes to the handler of its channel; what
publishes nothing is passed over.  Once the bus has closed the connection the
client still keeps its handlers, but neither sends nor receives.
-/

namespace WorkspaceStartup

structure BusClient (Handler : Type) where
  handlers : Dictionary Handler
  connected : Bool
  /-- The texts of the frames sent, the latest first. -/
  sent : List String

namespace BusClient

inductive Incoming
  | text (text : String)
  | binary (bytes : List UInt8)
  | ping
  | close
  deriving DecidableEq, Repr

def new : BusClient Handler := ⟨.empty, true, []⟩

/-- Sends a frame, as long as the client is connected. -/
def send (client : BusClient Handler) (frame : String) : BusClient Handler :=
  if client.connected then { client with sent := frame :: client.sent }
  else client

/-- Makes a handler the one of a channel and asks the bus for the channel. -/
def subscribe (client : BusClient Handler) (channel : String)
    (handler : Handler) (id : Uuid) : BusClient Handler :=
  { client with handlers := client.handlers.insert channel handler }.send
    (ChannelRequest.subscribe.frameText id channel)

/-- Gives up a channel, if it has a handler. -/
def unsubscribe (client : BusClient Handler) (channel : String) (id : Uuid) :
    BusClient Handler :=
  if client.handlers.contains channel then
    { client with handlers := client.handlers.erase channel }.send
      (ChannelRequest.unsubscribe.frameText id channel)
  else client

/-- The subscribed channels in the order of their names. -/
def channels (client : BusClient Handler) : List String := client.handlers.names

/-- The handler to be called for the text of a frame, with the message's body. -/
def delivery? (client : BusClient Handler) (text : String) :
    Option (Handler × String) := do
  let publication ← Publication.read? text
  let handler ← client.handlers.get? publication.channel
  return (handler, publication.body)

/-- Takes in what the bus sends, together with the call that it leads to. -/
def receive (client : BusClient Handler) (incoming : Incoming) :
    BusClient Handler × Option (Handler × String) :=
  if client.connected then
    match incoming with
    | .text text => (client, client.delivery? text)
    | .binary _ | .ping => (client, none)
    | .close => ({ client with connected := false }, none)
  else (client, none)

end BusClient

end WorkspaceStartup
