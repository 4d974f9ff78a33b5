import Mathlib.Data.Finset.Dedup
import Mathlib.Data.Finset.Erase
import Mathlib.Data.Finset.Insert
import WorkspaceStartup.Proofs.Bus.Exchange

/-!
# The channels that the bus believes to be wanted

A bus knows the channels that a client wants only from the frames it is sent.
While the connection lasts, the frames sent so far name exactly the channels
that have a handler, and no channel is given up that was not asked for.
-/

namespace WorkspaceStartup

variable {Handler : Type}

namespace ChannelRequest

/-- The wanted channels after one more frame. -/
def takeIn (channels : Finset String) (frame : String) : Finset String :=
  match read? frame with
  | some (.subscribe, channel) => insert channel channels
  | some (.unsubscribe, channel) => channels.erase channel
  | none => channels

/-- The channels wanted after the frames, the earliest of which comes first. -/
def wanted (frames : List String) : Finset String :=
  frames.foldl takeIn ∅

theorem mem_wanted_append (frames : List String) (request : ChannelRequest)
    (id : Uuid) (channel other : String) :
    other ∈ wanted (frames ++ [request.frameText id channel]) ↔
      if other = channel then request = .subscribe else other ∈ wanted frames := by
  rw [wanted, List.foldl_append, List.foldl_cons, List.foldl_nil, takeIn,
    read?_frameText]
  cases request with
  | subscribe =>
      by_cases same : other = channel <;> simp [same, wanted]
  | unsubscribe =>
      by_cases same : other = channel <;> simp [same, wanted]

end ChannelRequest

namespace BusClient

open ChannelRequest (wanted)

variable {client : BusClient Handler}

/-- The frames that a client has queued, the earliest first. -/
def queued (client : BusClient Handler) : List String := client.sent.reverse

theorem queued_send (client : BusClient Handler)
    (connected : client.connected = true) (frame : String) :
    (client.send frame).queued = client.queued ++ [frame] := by
  simp [send, connected, queued]

/-- What the frames tell the bus is what the client does. -/
structure InStep (client : BusClient Handler) : Prop where
  connected : client.connected = true
  mem_wanted_iff : ∀ channel,
    channel ∈ wanted client.queued ↔ (client.handlers.get? channel).isSome = true
  /-- Every frame asks for a channel or gives it up. -/
  understood : ∀ frame ∈ client.queued,
    (ChannelRequest.read? frame).isSome = true
  /-- A channel is given up only while it is wanted. -/
  warranted : ∀ {earlier frame channel}, earlier ++ [frame] <+: client.queued →
    ChannelRequest.read? frame = some (.unsubscribe, channel) →
    channel ∈ wanted earlier

namespace InStep

theorem new : InStep (new : BusClient Handler) where
  connected := rfl
  mem_wanted_iff _ := by
    simp [queued, BusClient.new, wanted, Dictionary.get?, Dictionary.empty]
  understood := by simp [queued, BusClient.new]
  warranted := by simp [queued, BusClient.new]

/-- One more frame, which tells the bus what becomes of a channel. -/
theorem send (inStep : client.InStep) {handlers : Dictionary Handler}
    {request : ChannelRequest} {id : Uuid} {channel : String}
    (changed : ∀ other, (handlers.get? other).isSome = true ↔
      if other = channel then request = .subscribe
      else (client.handlers.get? other).isSome = true)
    (warrant : request = .unsubscribe → channel ∈ wanted client.queued) :
    InStep ({ client with handlers := handlers }.send
      (request.frameText id channel)) := by
  let changedClient := { client with handlers := handlers }
  have queued := queued_send changedClient inStep.connected
    (request.frameText id channel)
  constructor
  case connected => simpa using inStep.connected
  case mem_wanted_iff =>
    intro other
    rw [queued, handlers_send, ChannelRequest.mem_wanted_append, changed]
    simp only [← inStep.mem_wanted_iff]
    rfl
  case understood =>
    intro frame isQueued
    rw [queued, List.mem_append, List.mem_singleton] at isQueued
    rcases isQueued with earlier | rfl
    · exact inStep.understood frame earlier
    · simp [ChannelRequest.read?_frameText]
  case warranted =>
    intro earlier frame given isEarlier read
    rw [queued, List.prefix_concat_iff] at isEarlier
    rcases isEarlier with isLast | isEarlier
    · obtain ⟨isAll, isFrame⟩ := List.append_inj' isLast (by simp)
      rw [List.singleton_inj.mp isFrame, ChannelRequest.read?_frameText] at read
      obtain ⟨isUnsubscribe, rfl⟩ := Prod.mk.inj (Option.some.inj read)
      rw [isAll]
      exact warrant isUnsubscribe
    · exact inStep.warranted isEarlier read

theorem subscribe (inStep : client.InStep) (channel : String)
    (handler : Handler) (id : Uuid) :
    (client.subscribe channel handler id).InStep := by
  apply inStep.send
  · intro other
    rw [Dictionary.get?_insert]
    split <;> simp
  · intro impossible
    cases impossible

theorem unsubscribe (inStep : client.InStep) (channel : String) (id : Uuid) :
    (client.unsubscribe channel id).InStep := by
  unfold BusClient.unsubscribe
  split
  case isTrue handled =>
    apply inStep.send
    · intro other
      rw [Dictionary.get?_erase]
      split <;> simp
    · intro _
      exact (inStep.mem_wanted_iff channel).mpr handled
  case isFalse => exact inStep

theorem receive (inStep : client.InStep) {incoming : Incoming}
    (stays : incoming ≠ .close) : (client.receive incoming).1.InStep := by
  unfold BusClient.receive
  split
  · cases incoming with
    | close => exact absurd rfl stays
    | text | binary | ping => exact inStep
  · exact inStep

/-- By induction on the exchanges. -/
theorem after (inStep : client.InStep) {exchanges : List (Exchange Handler)}
    (stays : .receive .close ∉ exchanges) : (client.after exchanges).InStep := by
  induction exchanges generalizing client with
  | nil => exact inStep
  | cons exchange later induction =>
      rw [List.mem_cons, not_or] at stays
      obtain ⟨notClose, stays⟩ := stays
      have step : (client.perform exchange).1.InStep := by
        cases exchange with
        | subscribe channel handler id => exact inStep.subscribe channel handler id
        | unsubscribe channel id => exact inStep.unsubscribe channel id
        | receive incoming =>
            apply inStep.receive
            rintro rfl
            exact notClose rfl
      exact induction step stays

end InStep

end BusClient

/-- As long as the bus does not go away, the frames that a client queues leave
the bus with exactly the channels that have a handler.  A channel is given up
only while the frames before it have the bus believe that it is wanted. -/
theorem bus_wants_what_client_handles (exchanges : List (Exchange Handler))
    (stays : .receive .close ∉ exchanges) :
    let client := BusClient.new.after exchanges
    ChannelRequest.wanted client.queued = client.channels.toFinset ∧
    (∀ {earlier frame channel}, earlier ++ [frame] <+: client.queued →
      ChannelRequest.read? frame = some (.unsubscribe, channel) →
      channel ∈ ChannelRequest.wanted earlier) ∧
    ∀ frame ∈ client.queued, (ChannelRequest.read? frame).isSome = true := by
  intro client
  have inStep : client.InStep := BusClient.InStep.new.after stays
  refine ⟨?_, inStep.warranted, inStep.understood⟩
  ext channel
  rw [inStep.mem_wanted_iff, List.mem_toFinset]
  exact (client.handlers.mem_names_iff channel).symm

/-- One channel is asked for twice and given up once, another is given up
without ever having been asked for. -/
theorem bus_wants_one_of_three :
    ChannelRequest.wanted (BusClient.new.after
      [.subscribe "status" 1 ⟨0⟩, .unsubscribe "agent" ⟨0⟩,
        .subscribe "output" 2 ⟨0⟩, .subscribe "status" 3 ⟨0⟩,
        .unsubscribe "status" ⟨0⟩]).queued = {"output"} := by
  have wanted := (bus_wants_what_client_handles
    [.subscribe "status" 1 ⟨0⟩, .unsubscribe "agent" ⟨0⟩,
      .subscribe "output" 2 ⟨0⟩, .subscribe "status" 3 ⟨0⟩,
      .unsubscribe "status" ⟨0⟩] (by simp)).1
  exact wanted.trans rfl

end WorkspaceStartup
