import WorkspaceStartup.Bus.Frame
import WorkspaceStartup.Proofs.Json.Record

/-!
# Frames carry their channel

What a frame holds does not depend on the order of its members or on members
that nobody reads.  The frame in which a client asks for a channel holds the
name of that channel, quoted in a text that is quoted again; it can be told
from every other such frame, and it publishes nothing.
-/

namespace WorkspaceStartup

open Json
open Json.Record (Spells)

theorem FrameHeader.encode_conveys (header : FrameHeader) :
    header.encode.Conveys FrameHeader.decode header := by
  have name := Spells.text "name" none header.name
  have value := Spells.text "value" none header.value
  have fields := (name.map FrameHeader.mk).seq value (by decide)
  exact fields.conveys (by decide)

namespace Frame

variable {frame : Frame} {members : List (String × Json)}

/-- The members of an object are those of the frame, in any order and among
others. -/
structure HeldBy (frame : Frame) (members : List (String × Json)) : Prop where
  distinct : (members.map (·.1)).Nodup
  whole : ∀ member ∈ members, member.2.Whole
  headers : lookUp? "headers" members =
    some (.array (frame.headers.map FrameHeader.encode))
  body : lookUp? "body" members = frame.body.map .text

/-- The printed object is read as the frame that it holds. -/
theorem read?_print (held : frame.HeldBy members) :
    read? (Json.object members).print = some frame := by
  have headers := Spells.list "headers" frame.headers
    fun header _ => header.encode_conveys
  have body := Spells.optionalText "body" frame.body
  have fields := (headers.map Frame.mk).seq body (by decide)
  have decoded : record.decode (.ofJson (.object members)) = .ok frame := by
    apply Record.decode_object held.distinct
    apply fields.read
    intro name isField
    have listed : name ∈ ["headers", "body"] := isField
    simp only [List.mem_cons, List.not_mem_nil, or_false] at listed
    rcases listed with rfl | rfl
    · rw [held.headers]
      simp
    · rw [held.body]
      cases frame.body <;> simp [optionalMember]
  have whole : (Json.object members).Whole := wholeMembers_iff.mpr held.whole
  rw [read?, Source.decode_text_print whole decoded]
  rfl

end Frame

namespace ChannelRequest

variable (request : ChannelRequest) (id : Uuid) (channel : String)

theorem whole_frame : (request.frame id channel).Whole := by
  simp [frame, Whole, WholeMembers, WholeItems, FrameHeader.encode]

theorem parse?_body :
    Json.parse? (body channel).print = some (body channel) := by
  have whole : (body channel).Whole := ⟨trivial, trivial⟩
  have shallow : (body channel).depth ≤ Draft.depthLimit := by
    simp [body, depth, depthMembers, Draft.depthLimit]
  exact parse?_print whole shallow

theorem parse?_frameText :
    ∃ members, Json.parse? (request.frameText id channel) = some (.object members) ∧
      lookUp? "uuid" members = some (.text id.text) ∧
      lookUp? "method" members = some (.text "POST") ∧
      lookUp? "headers" members =
        some (.array [FrameHeader.encode ⟨headerName, request.word⟩]) ∧
      lookUp? "body" members = some (.text (body channel).print) := by
  have shallow : (request.frame id channel).depth ≤ Draft.depthLimit := by
    simp [frame, depth, depthItems, depthMembers, FrameHeader.encode,
      Draft.depthLimit]
  -- The members of the frame are sorted when it is read, those of its one
  -- header are in order already.
  have header : (FrameHeader.encode ⟨headerName, request.word⟩).sorted =
      FrameHeader.encode ⟨headerName, request.word⟩ := by
    apply congrArg Json.object
    apply fileEntries_of_ordered
    have before : "name" < "value" := by decide
    simp only [Ordered, sortedMembers, sorted, List.pairwise_cons,
      List.mem_singleton, forall_eq, before, List.not_mem_nil, false_implies,
      implies_true, List.Pairwise.nil, and_self]
  have parsed := parse?_print (request.whole_frame id channel) shallow
  simp only [frame, sorted, sortedMembers, sortedItems, header, filed] at parsed
  refine ⟨_, parsed, ?_, ?_, ?_, ?_⟩
  all_goals
    rw [lookUp?_fileEntries]
    simp

/-- A reader of frames finds the one header and the body. -/
theorem frameRead?_frameText :
    Frame.read? (request.frameText id channel) =
      some ⟨[⟨headerName, request.word⟩], some (body channel).print⟩ := by
  apply Frame.read?_print
  constructor
  · simp
  · intro member inMembers
    exact wholeMembers_iff.mp (request.whole_frame id channel) member inMembers
  · simp
  · simp

theorem lowered_headerName : Text.lowered headerName = headerName := by
  decide +kernel

def ofWord? (word : String) : Option ChannelRequest :=
  [subscribe, unsubscribe].find? fun request => request.word == word

theorem ofWord?_word : ofWord? request.word = some request := by
  cases request <;> decide

/-- What the text of a frame asks, and the channel that its body names. -/
def read? (text : String) : Option (ChannelRequest × String) := do
  let frame ← Frame.read? text
  let request ← (frame.header? headerName).bind ofWord?
  let body ← frame.body.bind Json.parse?
  let channel ← body.textMember? "channel"
  return (request, channel)

theorem read?_frameText :
    read? (request.frameText id channel) = some (request, channel) := by
  have member : (body channel).textMember? "channel" = some channel := rfl
  simp [read?, frameRead?_frameText, Frame.header?, FrameHeader.isNamed,
    lowered_headerName, ofWord?_word, parse?_body, member]

theorem publishes_nothing :
    Publication.read? (request.frameText id channel) = none := by
  have unnamed : headerName ≠ Publication.headerName := by decide
  simp [Publication.read?, frameRead?_frameText, Frame.header?,
    FrameHeader.isNamed, lowered_headerName, unnamed]

theorem frameText_eq_iff {request other : ChannelRequest} {id otherId : Uuid}
    {channel otherChannel : String} :
    request.frameText id channel = other.frameText otherId otherChannel ↔
      request = other ∧ id.text = otherId.text ∧ channel = otherChannel := by
  constructor
  · intro same
    have read := read?_frameText request id channel
    rw [same, read?_frameText] at read
    cases read
    obtain ⟨members, parsed, uuid, -⟩ := parse?_frameText request id channel
    obtain ⟨otherMembers, otherParsed, otherUuid, -⟩ :=
      parse?_frameText request otherId channel
    rw [same, otherParsed] at parsed
    cases parsed
    have sameId : otherId.text = id.text := by
      simpa [otherUuid] using uuid
    exact ⟨rfl, sameId.symm, rfl⟩
  · rintro ⟨rfl, sameId, rfl⟩
    simp only [frameText, frame, sameId]

end ChannelRequest

/-- The frame that asks for a channel or gives it up carries the channel's name
through two layers of JSON, whatever the name; it says which of the two it asks
and of which channel, and no bus takes it for a message. -/
theorem requests_carry_their_channel (request : ChannelRequest) (id : Uuid)
    (channel : String) :
    (∃ members body,
      Json.parse? (request.frameText id channel) = some (.object members) ∧
      lookUp? "method" members = some (.text "POST") ∧
      lookUp? "headers" members = some (.array [.object
        [("name", .text "x-everrest-websocket-message-type"),
          ("value", .text (match request with
            | .subscribe => "subscribe-channel"
            | .unsubscribe => "unsubscribe-channel"))]]) ∧
      lookUp? "body" members = some (.text body) ∧
      Json.parse? body = some (.object [("channel", .text channel)])) ∧
    (∀ other otherId otherChannel,
      request.frameText id channel =
          ChannelRequest.frameText other otherId otherChannel ↔
        request = other ∧ id.text = otherId.text ∧ channel = otherChannel) ∧
    Publication.read? (request.frameText id channel) = none := by
  refine ⟨?carried, ?determined, request.publishes_nothing id channel⟩
  case carried =>
    obtain ⟨members, parsed, -, method, headers, body⟩ :=
      request.parse?_frameText id channel
    refine ⟨members, _, parsed, method, ?_, body,
      ChannelRequest.parse?_body channel⟩
    rw [headers]
    cases request <;> rfl
  case determined =>
    intro other otherId otherChannel
    exact ChannelRequest.frameText_eq_iff

end WorkspaceStartup
