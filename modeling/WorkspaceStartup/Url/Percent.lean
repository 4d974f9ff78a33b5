import WorkspaceStartup.Text.Numeral
import WorkspaceStartup.Text.Utf8

/-!
# Percent encoding

Each part of a URL has a set of characters that must not stand in it as they
are.  They are written as their bytes in UTF-8, each byte as a percent sign
and two digits.  Characters beyond ASCII belong to every set.
-/

namespace WorkspaceStartup.Url

/-- One byte, percent-encoded. -/
def percentByte (byte : UInt8) : List Char :=
  '%' :: Text.upperHexByte byte

/-- Control characters, and all characters beyond ASCII. -/
def isControl (character : Char) : Bool :=
  character.toNat < 0x20 || 0x7E < character.toNat

def mustEncodeInFragment (character : Char) : Bool :=
  isControl character || [' ', '"', '<', '>', '\x60'].contains character

def mustEncodeInQuery (special : Bool) (character : Char) : Bool :=
  isControl character || [' ', '"', '#', '<', '>'].contains character ||
    (special && character == '\'')

def mustEncodeInPath (character : Char) : Bool :=
  mustEncodeInFragment character || ['#', '?', '\x7b', '\x7d'].contains character

def mustEncodeInUserinfo (character : Char) : Bool :=
  mustEncodeInPath character ||
    ['/', ':', ';', '=', '@', '[', '\\', ']', '^', '|'].contains character

/-- The character, percent-encoded if it belongs to the set. -/
def encodeChar (mustEncode : Char → Bool) (character : Char) : List Char :=
  if mustEncode character then
    (String.utf8EncodeChar character).flatMap percentByte
  else [character]

def encode (mustEncode : Char → Bool) (characters : List Char) : List Char :=
  characters.flatMap (encodeChar mustEncode)

/-- The bytes that characters stand for, with every percent code resolved. -/
def decodeBytes : List Char → List UInt8
  | [] => []
  | '%' :: high :: low :: rest =>
      match Text.digitOf? 16 high, Text.digitOf? 16 low with
      | some high, some low => UInt8.ofNat (high * 16 + low) :: decodeBytes rest
      | _, _ => UInt8.ofNat '%'.toNat :: decodeBytes (high :: low :: rest)
  | character :: rest => String.utf8EncodeChar character ++ decodeBytes rest

/-- Bytes that form encoding leaves as they are. -/
def isFormSafe (byte : UInt8) : Bool :=
  let code := byte.toNat
  (48 ≤ code && code ≤ 57) || (65 ≤ code && code ≤ 90) ||
    (97 ≤ code && code ≤ 122) || [0x2A, 0x2D, 0x2E, 0x5F].contains code

/-- One byte in the encoding of forms, where a space becomes a plus sign. -/
def formByte (byte : UInt8) : List Char :=
  if isFormSafe byte then [Char.ofNat byte.toNat]
  else if byte.toNat = 0x20 then ['+']
  else percentByte byte

/-- A text in the encoding of forms. -/
def formEncode (text : String) : String :=
  String.ofList ((Text.bytesOf text.toList).flatMap formByte)

end WorkspaceStartup.Url
