import WorkspaceStartup.Json.Decode
import WorkspaceStartup.Text.Utf8

/-!
# JSON from bytes

The bytes of a JSON text should be characters.  A place that is none spoils
the token it stands in: outside quotation marks it is no JSON, and inside them
it is no text, but a text that is passed over may still hold it.
-/

namespace WorkspaceStartup.Json

/--
What is read in place of bytes that are no character: a letter, which no token
or escape can go on with, and half of a surrogate pair, which no text can hold.
-/
def unreadablePlace : List Char := ['x', '\\', 'u', 'd', 'c', '0', '0']

/-- The text to be read for the bytes. -/
def textOfBytes (bytes : List UInt8) : String :=
  String.ofList ((Text.readUtf8 bytes).flatMap fun place =>
    match place with
    | some character => [character]
    | none => unreadablePlace)

/-- The value of a wanted shape that bytes write. -/
def decodeBytes (decode : Decoder α) (bytes : List UInt8) :
    Except DefectClass α :=
  (Source.text (textOfBytes bytes)).decode decode

end WorkspaceStartup.Json
