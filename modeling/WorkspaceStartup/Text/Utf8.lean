/-!
# Bytes as text

Bytes are read as characters in UTF-8.  Each longest run of bytes that starts
like a character and is none counts as one unreadable place, and the reading
goes on with the next byte.
-/

namespace WorkspaceStartup.Text

/-- A character of several bytes, read in part. -/
structure PartialCharacter where
  value : Nat
  /-- How many bytes are still to come. -/
  missing : Nat
  /-- The bounds of the next byte. -/
  lowest : Nat
  highest : Nat
  deriving DecidableEq, Repr

/-- The places that a byte ends, and the character that is then begun. -/
structure ByteReading where
  places : List (Option Char)
  begun : Option PartialCharacter

/-- Reads the first byte of a character. -/
def firstByte (byte : Nat) : ByteReading :=
  let whole : ByteReading := ⟨[some (Char.ofNat byte)], none⟩
  let unreadable : ByteReading := ⟨[none], none⟩
  let starting (value missing lowest highest : Nat) : ByteReading :=
    ⟨[], some ⟨value, missing, lowest, highest⟩⟩
  -- The bounds leave out longer forms, surrogates and what is no code point.
  if byte < 0x80 then whole
  else if byte < 0xC2 then unreadable
  else if byte < 0xE0 then starting (byte - 0xC0) 1 0x80 0xBF
  else if byte = 0xE0 then starting 0 2 0xA0 0xBF
  else if byte = 0xED then starting 0xD 2 0x80 0x9F
  else if byte < 0xF0 then starting (byte - 0xE0) 2 0x80 0xBF
  else if byte = 0xF0 then starting 0 3 0x90 0xBF
  else if byte < 0xF4 then starting (byte - 0xF0) 3 0x80 0xBF
  else if byte = 0xF4 then starting 4 3 0x80 0x8F
  else unreadable

/-- Reads a byte after the character that was begun, if one was. -/
def readByte (begun : Option PartialCharacter) (byte : Nat) : ByteReading :=
  match begun with
  | none => firstByte byte
  | some started =>
      if started.lowest ≤ byte ∧ byte ≤ started.highest then
        let value := started.value * 64 + byte % 64
        if started.missing ≤ 1 then ⟨[some (Char.ofNat value)], none⟩
        else ⟨[], some ⟨value, started.missing - 1, 0x80, 0xBF⟩⟩
      else
        -- The byte does not belong to the character, but it may begin one.
        let afresh := firstByte byte
        ⟨none :: afresh.places, afresh.begun⟩

/-- The characters of the bytes, none for each unreadable place. -/
def readUtf8From (begun : Option PartialCharacter) :
    List UInt8 → List (Option Char)
  | [] => if begun.isSome then [none] else []
  | byte :: bytes =>
      let reading := readByte begun byte.toNat
      reading.places ++ readUtf8From reading.begun bytes

/-- The characters of the bytes, none for each unreadable place. -/
def readUtf8 (bytes : List UInt8) : List (Option Char) :=
  readUtf8From none bytes

/-- The text of the bytes, if every place is readable. -/
def textOfBytes? (bytes : List UInt8) : Option String :=
  ((readUtf8 bytes).mapM id).map String.ofList

/-- The text of the bytes with a replacement character for each unreadable place. -/
def shownTextOfBytes (bytes : List UInt8) : String :=
  String.ofList ((readUtf8 bytes).map fun place => place.getD '\uFFFD')

/-- The bytes of the characters. -/
def bytesOf (characters : List Char) : List UInt8 :=
  characters.flatMap String.utf8EncodeChar

end WorkspaceStartup.Text
