import WorkspaceStartup.Json.Printer
import WorkspaceStartup.Json.Record
import WorkspaceStartup.Text.Ascii
import WorkspaceStartup.Uuid

/-!
# Frames of the message bus

On the wire a bus speaks in frames, which are JSON texts with headers and a
body.  A client asks for a channel or gives it up in a frame whose body names
the channel; a frame that publishes a message names the channel in a header.
A frame without that header publishes nothing.
-/

namespace WorkspaceStartup

open Json

structure FrameHeader where
  name : String
  value : String
  deriving DecidableEq, Repr

namespace FrameHeader

def encode (header : FrameHeader) : Json :=
  .object [("name", .text header.name), ("value", .text header.value)]

def record : Record FrameHeader :=
  FrameHeader.mk
    <$> .field "name" Decode.text none
    <*> .field "value" Decode.text none

def decode : Decoder FrameHeader := record.decode

/-- The header has the name, in capital or small letters. -/
def isNamed (header : FrameHeader) (name : String) : Bool :=
  Text.lowered header.name == name

end FrameHeader

/-- What a frame holds besides what nobody reads. -/
structure Frame where
  headers : List FrameHeader
  body : Option String
  deriving DecidableEq, Repr

namespace Frame

def record : Record Frame :=
  Frame.mk
    <$> .field "headers" (Decode.list FrameHeader.decode) (some [])
    <*> .field "body" (Decode.optional Decode.text) (some none)

/-- The frame that a text is. -/
def read? (text : String) : Option Frame :=
  ((Source.text text).decode record.decode).toOption

/-- The value of the first header of a name. -/
def header? (frame : Frame) (name : String) : Option String :=
  (frame.headers.find? fun header => header.isNamed name).map (·.value)

end Frame

/-- What a client asks of the bus about a channel. -/
inductive ChannelRequest
  | subscribe
  | unsubscribe
  deriving DecidableEq, Repr

namespace ChannelRequest

/-- The header that says what is asked. -/
def headerName : String := "x-everrest-websocket-message-type"

def word : ChannelRequest → String
  | subscribe => "subscribe-channel"
  | unsubscribe => "unsubscribe-channel"

/-- The body that names the channel. -/
def body (channel : String) : Json := .object [("channel", .text channel)]

/-- The frame that asks it, as JSON. -/
def frame (request : ChannelRequest) (id : Uuid) (channel : String) : Json :=
  let header : FrameHeader := ⟨headerName, request.word⟩
  .object [("uuid", .text id.text), ("method", .text "POST"),
    ("headers", .array [header.encode]),
    ("body", .text (body channel).print)]

/-- The text of the frame that asks it. -/
def frameText (request : ChannelRequest) (id : Uuid) (channel : String) :
    String :=
  (request.frame id channel).print

end ChannelRequest

/-- A message that the bus publishes. -/
structure Publication where
  channel : String
  body : String
  deriving DecidableEq, Repr

namespace Publication

/-- The header that names the channel. -/
def headerName : String := "x-everrest-websocket-channel"

/-- The message that the text of a frame publishes, if it publishes one. -/
def read? (text : String) : Option Publication := do
  let frame ← Frame.read? text
  let channel ← frame.header? headerName
  return ⟨channel, frame.body.getD ""⟩

/-- The text of a frame that publishes the message. -/
def frameText (publication : Publication) : String :=
  let header : FrameHeader := ⟨headerName, publication.channel⟩
  (Json.object [("headers", .array [header.encode]),
    ("body", .text publication.body)]).print

end Publication

end WorkspaceStartup
