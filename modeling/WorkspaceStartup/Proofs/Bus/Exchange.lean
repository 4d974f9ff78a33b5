import WorkspaceStartup.Bus.Client
import WorkspaceStartup.Controller.Messages
import WorkspaceStartup.Proofs.Bus.Frame
import WorkspaceStartup.Proofs.Subscription

/-!
# A bus within reach and a bus at a distance

A bus is subscribed to, unsubscribed from and published on.  A client does the
same at a distance, where what is published arrives in frames.  Calls are
compared in their order: which handler is called, and with which body.
-/

namespace WorkspaceStartup

/-- A handler that is called, and the body that it is called with. -/
abbrev BusCall (Handler : Type) := Handler × String

variable {Handler : Type}

/-- Takes a state from action to action and collects the calls on the way. -/
def throughAll {State Action Call : Type}
    (step : State → Action → State × Option Call) (state : State) :
    List Action → State × List Call
  | [] => (state, [])
  | action :: later =>
      let next := step state action
      let last := throughAll step next.1 later
      (last.1, next.2.toList ++ last.2)

/-- What is done with a bus. -/
inductive BusAction (Handler : Type)
  | subscribe (channel : String) (handler : Handler)
  | unsubscribe (channel : String)
  | publish (publication : Publication)

namespace Bus

/-- The call that a message leads to. -/
def delivery? (bus : Bus Handler) (publication : Publication) :
    Option (BusCall Handler) :=
  (bus.handler? publication.channel).map fun handler =>
    (handler, publication.body)

/-- Takes an action, together with the call that it leads to. -/
def perform (bus : Bus Handler) :
    BusAction Handler → Bus Handler × Option (BusCall Handler)
  | .subscribe channel handler => (bus.subscribe channel handler, none)
  | .unsubscribe channel => (bus.unsubscribe channel, none)
  | .publish publication => (bus, bus.delivery? publication)

def calls (bus : Bus Handler) (actions : List (BusAction Handler)) :
    List (BusCall Handler) :=
  (throughAll perform bus actions).2

end Bus

/-- To publish is to make the call that the message leads to. -/
theorem Controller.publish_eq_handle (controller : Controller)
    (channel body : String) :
    controller.publish channel body =
      match controller.bus.delivery? ⟨channel, body⟩ with
      | some (handler, body) => controller.handle handler body
      | none => controller := by
  simp only [publish, Bus.delivery?]
  cases controller.bus.handler? channel <;> rfl

/-- What is asked of a client, or sent to it. -/
inductive Exchange (Handler : Type)
  | subscribe (channel : String) (handler : Handler) (id : Uuid)
  | unsubscribe (channel : String) (id : Uuid)
  | receive (incoming : BusClient.Incoming)

namespace BusClient

def perform (client : BusClient Handler) :
    Exchange Handler → BusClient Handler × Option (BusCall Handler)
  | .subscribe channel handler id => (client.subscribe channel handler id, none)
  | .unsubscribe channel id => (client.unsubscribe channel id, none)
  | .receive incoming => client.receive incoming

def after (client : BusClient Handler) (exchanges : List (Exchange Handler)) :
    BusClient Handler :=
  (throughAll perform client exchanges).1

def calls (client : BusClient Handler) (exchanges : List (Exchange Handler)) :
    List (BusCall Handler) :=
  (throughAll perform client exchanges).2

end BusClient

namespace Publication

variable {text : String} {publication : Publication}

/-- The text is a frame in which one header, its name in letters of either size,
gives the channel of the message.  The body is that of the message, or is left
out when that is empty. -/
def SentIn (publication : Publication) (text : String) : Prop :=
  ∃ frame, Frame.read? text = some frame ∧
    (∃ before header after,
      frame.headers = before ++ header :: after ∧
      Text.lowered header.name = headerName ∧
      header.value = publication.channel ∧
      ∀ other ∈ before ++ after, Text.lowered other.name ≠ headerName) ∧
    (frame.body = some publication.body ∨
      frame.body = none ∧ publication.body = "")

/-- The text is no frame, or one without a header that names a channel. -/
def Missing (text : String) : Prop :=
  ∀ frame, Frame.read? text = some frame →
    ∀ header ∈ frame.headers, Text.lowered header.name ≠ headerName

theorem SentIn.read? (sent : publication.SentIn text) :
    Publication.read? text = some publication := by
  obtain ⟨frame, read, ⟨before, header, after, headers, named, value, alone⟩,
    body⟩ := sent
  have first : frame.headers.find? (·.isNamed headerName) = some header := by
    rw [headers]
    apply List.find?_eq_some_iff_append.mpr
    refine ⟨by simpa [FrameHeader.isNamed] using named, before, after, rfl, ?_⟩
    intro other inBefore
    have unnamed := alone other (List.mem_append_left after inBefore)
    simpa [FrameHeader.isNamed] using unnamed
  have content : frame.body.getD "" = publication.body := by
    rcases body with given | ⟨left, empty⟩
    · simp [given]
    · simp [left, empty]
  simp [Publication.read?, read, Frame.header?, first, value, content]

theorem Missing.read? (missing : Missing text) : Publication.read? text = none := by
  cases read : Frame.read? text with
  | none => simp [Publication.read?, read]
  | some frame =>
      have unnamed : frame.headers.find? (·.isNamed headerName) = none := by
        apply List.find?_eq_none.mpr
        intro header inHeaders
        simpa [FrameHeader.isNamed] using missing frame read header inHeaders
      simp [Publication.read?, read, Frame.header?, unnamed]

end Publication

/-- What the bus may send without publishing anything or going away. -/
def BusClient.Incoming.Idle : Incoming → Prop
  | .text frame => Publication.Missing frame
  | .binary _ | .ping => True
  | .close => False

/-- The exchanges of a client convey the actions: what is published arrives in
a frame, and between them idle messages may arrive. -/
inductive Conveyed : List (BusAction Handler) → List (Exchange Handler) → Prop
  | nil : Conveyed [] []
  | subscribe {actions exchanges} (channel : String) (handler : Handler)
      (id : Uuid) (later : Conveyed actions exchanges) :
      Conveyed (.subscribe channel handler :: actions)
        (.subscribe channel handler id :: exchanges)
  | unsubscribe {actions exchanges} (channel : String) (id : Uuid)
      (later : Conveyed actions exchanges) :
      Conveyed (.unsubscribe channel :: actions)
        (.unsubscribe channel id :: exchanges)
  | publish {actions exchanges} {publication : Publication} {text : String}
      (sent : publication.SentIn text) (later : Conveyed actions exchanges) :
      Conveyed (.publish publication :: actions)
        (.receive (.text text) :: exchanges)
  | idle {actions exchanges} {incoming : BusClient.Incoming}
      (idle : incoming.Idle) (later : Conveyed actions exchanges) :
      Conveyed actions (.receive incoming :: exchanges)

namespace BusClient

variable {client : BusClient Handler} {bus : Bus Handler}

@[simp] theorem handlers_send (client : BusClient Handler) (frame : String) :
    (client.send frame).handlers = client.handlers := by
  unfold send
  split <;> rfl

@[simp] theorem connected_send (client : BusClient Handler) (frame : String) :
    (client.send frame).connected = client.connected := by
  unfold send
  split <;> rfl

@[simp] theorem get?_subscribe (client : BusClient Handler)
    (channel other : String) (handler : Handler) (id : Uuid) :
    (client.subscribe channel handler id).handlers.get? other =
      if other = channel then some handler else client.handlers.get? other := by
  simp [subscribe]

/-- Nothing is sent for a channel without a handler, yet the handlers are the
same as after giving it up. -/
@[simp] theorem get?_unsubscribe (client : BusClient Handler)
    (channel other : String) (id : Uuid) :
    (client.unsubscribe channel id).handlers.get? other =
      if other = channel then none else client.handlers.get? other := by
  unfold unsubscribe
  split
  case isTrue => simp
  case isFalse missing =>
    have unhandled : client.handlers.get? channel = none := by
      simpa [Dictionary.contains] using missing
    split
    case isTrue same => rw [same, unhandled]
    case isFalse => rfl

@[simp] theorem connected_subscribe (client : BusClient Handler)
    (channel : String) (handler : Handler) (id : Uuid) :
    (client.subscribe channel handler id).connected = client.connected :=
  connected_send _ _

@[simp] theorem connected_unsubscribe (client : BusClient Handler)
    (channel : String) (id : Uuid) :
    (client.unsubscribe channel id).connected = client.connected := by
  unfold unsubscribe
  split
  · exact connected_send _ _
  · rfl

theorem receive_of_idle (client : BusClient Handler) {incoming : Incoming}
    (idle : incoming.Idle) :
    client.receive incoming = (client, none) := by
  unfold receive
  split
  · cases incoming with
    | text text =>
        have unpublished : Publication.read? text = none :=
          Publication.Missing.read? idle
        simp [delivery?, unpublished]
    | binary bytes => rfl
    | ping => rfl
    | close => exact idle.elim
  · rfl

/-- A connected client that has the handlers of the bus. -/
structure Represents (client : BusClient Handler) (bus : Bus Handler) : Prop where
  connected : client.connected = true
  handlers : ∀ channel, client.handlers.get? channel = bus.handler? channel

namespace Represents

theorem new_empty : Represents (new : BusClient Handler) Bus.empty :=
  ⟨rfl, fun _ => rfl⟩

theorem subscribe (represents : client.Represents bus) (channel : String)
    (handler : Handler) (id : Uuid) :
    (client.subscribe channel handler id).Represents
      (bus.subscribe channel handler) where
  connected := by simpa using represents.connected
  handlers := by simp [represents.handlers]

theorem unsubscribe (represents : client.Represents bus) (channel : String)
    (id : Uuid) :
    (client.unsubscribe channel id).Represents (bus.unsubscribe channel) where
  connected := by simpa using represents.connected
  handlers := by simp [represents.handlers]

theorem receive_of_sentIn (represents : client.Represents bus)
    {publication : Publication} {text : String}
    (sent : publication.SentIn text) :
    client.receive (.text text) = (client, bus.delivery? publication) := by
  have delivery : client.delivery? text = bus.delivery? publication := by
    cases served : bus.handler? publication.channel <;>
      simp [delivery?, sent.read?, Bus.delivery?, represents.handlers, served]
  simp [receive, represents.connected, delivery]

/-- By induction on the exchanges; the client represents the bus throughout. -/
theorem calls_eq (represents : client.Represents bus)
    {actions : List (BusAction Handler)} {exchanges : List (Exchange Handler)}
    (conveyed : Conveyed actions exchanges) :
    client.calls exchanges = bus.calls actions := by
  induction conveyed generalizing client bus with
  | nil => rfl
  | subscribe channel handler id _ induction =>
      exact induction (represents.subscribe channel handler id)
  | unsubscribe channel id _ induction =>
      exact induction (represents.unsubscribe channel id)
  | @publish actions exchanges publication text sent _ induction =>
      have received := represents.receive_of_sentIn sent
      simp only [calls, Bus.calls, throughAll, perform, Bus.perform, received]
      exact congrArg (_ ++ ·) (induction represents)
  | @idle actions exchanges incoming idle _ induction =>
      -- The bus does not move here, the client stands still.
      have received := client.receive_of_idle idle
      simp only [calls, throughAll, perform, received]
      exact induction represents

end Represents

end BusClient

/-- A client makes the calls that the bus makes, in the same order, whenever
what is published reaches it in frames.  A frame that publishes nothing leads to
no call and leaves the client as it is.  An object with headers and a body is
such a frame, whatever the order of its members and whatever else it holds. -/
theorem client_calls_as_bus_calls :
    (∀ {actions : List (BusAction Handler)} {exchanges : List (Exchange Handler)},
      Conveyed actions exchanges →
        BusClient.new.calls exchanges = Bus.empty.calls actions) ∧
    (∀ (client : BusClient Handler) {text : String}, Publication.Missing text →
      client.receive (.text text) = (client, none)) ∧
    (∀ {frame : Frame} {members : List (String × Json)}, frame.HeldBy members →
      Frame.read? (Json.object members).print = some frame) := by
  refine ⟨?agreement, ?missing, Frame.read?_print⟩
  case agreement =>
    intro actions exchanges conveyed
    exact BusClient.Represents.new_empty.calls_eq conveyed
  case missing =>
    intro client text missing
    have idle : (BusClient.Incoming.text text).Idle := missing
    exact client.receive_of_idle idle

/-- The header may be written in capital letters and the body left out. -/
theorem client_calls_on_capital_header :
    let text := (Json.object [("headers", .array
      [FrameHeader.encode ⟨"Date", "today"⟩,
        FrameHeader.encode ⟨"X-Everrest-WebSocket-Channel", "status"⟩])]).print
    BusClient.new.calls
      [.subscribe "status" 7 ⟨0⟩, .receive .ping, .receive (.text text)] =
        [(7, "")] := by
  intro text
  let date : FrameHeader := ⟨"Date", "today"⟩
  let header : FrameHeader := ⟨"X-Everrest-WebSocket-Channel", "status"⟩
  have read : Frame.read? text = some ⟨[date, header], none⟩ := by
    apply (@client_calls_as_bus_calls Nat).2.2
    constructor
    · simp
    · simp [Json.Whole, Json.WholeMembers, Json.WholeItems, FrameHeader.encode]
    · simp [date, header]
    · simp
  have sent : Publication.SentIn ⟨"status", ""⟩ text := by
    refine ⟨_, read, ⟨[date], header, [], rfl, ?_, rfl, ?_⟩, .inr ⟨rfl, rfl⟩⟩
    · decide +kernel
    · decide +kernel
  have conveyed : Conveyed [.subscribe "status" 7, .publish ⟨"status", ""⟩]
      [.subscribe "status" 7 ⟨0⟩, .receive .ping, .receive (.text text)] :=
    .subscribe "status" 7 ⟨0⟩ (.idle trivial (.publish sent .nil))
  calc BusClient.new.calls
        [.subscribe "status" 7 ⟨0⟩, .receive .ping, .receive (.text text)]
    _ = Bus.empty.calls [.subscribe "status" 7, .publish ⟨"status", ""⟩] :=
      client_calls_as_bus_calls.1 conveyed
    _ = [(7, "")] := by rfl

end WorkspaceStartup
