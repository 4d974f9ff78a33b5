/-!
# Punycode

A label of a domain name with characters beyond ASCII is written in ASCII: its
ASCII characters first, then a hyphen and digits of base 36 that tell where
the other characters are to be inserted.
-/

namespace WorkspaceStartup.Url.Punycode

/-- The first code point that is inserted. -/
def initialCode : Nat := 0x80

def initialBias : Nat := 72

/-- The bias after an insertion, by the distance covered and the length reached. -/
def adaptLoop (delta steps : Nat) : Nat → Nat
  | 0 => steps + 36 * delta / (delta + 38)
  | fuel + 1 =>
      if 455 < delta then adaptLoop (delta / 35) (steps + 36) fuel
      else steps + 36 * delta / (delta + 38)

def adapt (delta length : Nat) (first : Bool) : Nat :=
  let delta := if first then delta / 700 else delta / 2
  let delta := delta + delta / length
  adaptLoop delta 0 delta

/-- The threshold of the digit at a place of weight `place`. -/
def threshold (place bias : Nat) : Nat :=
  if place ≤ bias then 1 else if bias + 26 ≤ place then 26 else place - bias

def digit (value : Nat) : Char :=
  if value < 26 then Char.ofNat (value + 97) else Char.ofNat (value + 22)

def digitValue? (character : Char) : Option Nat :=
  let code := character.toNat
  if 48 ≤ code ∧ code ≤ 57 then some (code - 22)
  else if 97 ≤ code ∧ code ≤ 122 then some (code - 97)
  else if 65 ≤ code ∧ code ≤ 90 then some (code - 65)
  else none

/-- A number as digits whose thresholds grow with the place. -/
def encodeNumber (number place bias : Nat) : Nat → List Char
  | 0 => [digit number]
  | fuel + 1 =>
      let limit := threshold place bias
      if number < limit then [digit number]
      else
        digit (limit + (number - limit) % (36 - limit)) ::
          encodeNumber ((number - limit) / (36 - limit)) (place + 36) bias fuel

/-- The state between two insertions while a label is written. -/
structure Writing where
  delta : Nat
  bias : Nat
  /-- How many characters have been written. -/
  handled : Nat
  output : List Char

/-- Passes over one character of the label while the ones of `code` are inserted. -/
def writeChar (basic code : Nat) (writing : Writing) (character : Char) :
    Writing :=
  if character.toNat < code then { writing with delta := writing.delta + 1 }
  else if character.toNat = code then
    { delta := 0
      bias := adapt writing.delta (writing.handled + 1) (writing.handled == basic)
      handled := writing.handled + 1
      output := writing.output ++
        encodeNumber writing.delta 36 writing.bias (writing.delta + 1) }
  else writing

/-- The smallest code point of the label from `code` on. -/
def nextCode? (label : List Char) (code : Nat) : Option Nat :=
  (label.filterMap fun character =>
    if code ≤ character.toNat then some character.toNat else none).min?

/-- Inserts all characters from `code` on, the smallest code points first. -/
def writeFrom (label : List Char) (basic code : Nat) (writing : Writing) :
    Nat → Writing
  | 0 => writing
  | fuel + 1 =>
      match nextCode? label code with
      | none => writing
      | some next =>
          -- Each code point that is skipped could stand at every place so far.
          let delta := writing.delta + (next - code) * (writing.handled + 1)
          let writing :=
            label.foldl (writeChar basic next) { writing with delta := delta }
          writeFrom label basic (next + 1)
            { writing with delta := writing.delta + 1 } fuel

/-- The label in ASCII. -/
def encode (label : List Char) : List Char :=
  let basic := label.filter fun character => character.toNat < 0x80
  let start := if basic.isEmpty then [] else basic ++ ['-']
  -- Each round inserts one character of the label at least.
  (writeFrom label basic.length initialCode
    ⟨0, initialBias, basic.length, start⟩ (label.length + 1)).output

/-- Inserts a character at a position. -/
def insertAt (position : Nat) (character : Char) (label : List Char) : List Char :=
  label.take position ++ character :: label.drop position

/-- The state between two digits while a label is read. -/
structure Reading where
  label : List Char
  code : Nat
  bias : Nat
  /-- The place of the last insertion and of the one under way. -/
  origin : Nat
  position : Nat
  weight : Nat
  place : Nat

/-- A code point that is a character beyond ASCII. -/
def characterOf? (code : Nat) : Option Char :=
  if code < 0x80 ∨ 0x10FFFF < code ∨ (0xD800 ≤ code ∧ code < 0xE000) then none
  else some (Char.ofNat code)

/-- The largest number that digits may stand for. -/
def largestNumber : Nat := 0xffffffff

/-- A number that digits may stand for. -/
def bounded? (number : Nat) : Option Nat :=
  if number ≤ largestNumber then some number else none

/-- Reads the digits of all insertions. -/
def read? (reading : Reading) : List Char → Option (List Char)
  | [] => if reading.place = 36 then some reading.label else none
  | character :: rest => do
      let value ← digitValue? character
      let position ← bounded? (reading.position + value * reading.weight)
      let limit := threshold reading.place reading.bias
      -- A digit below its threshold is the last of its number.
      if value < limit then
        let length := reading.label.length + 1
        let code := reading.code + position / length
        let inserted ← characterOf? code
        let spot := position % length
        read?
          { label := insertAt spot inserted reading.label
            code := code
            bias := adapt (position - reading.origin) length (reading.origin == 0)
            origin := spot + 1
            position := spot + 1
            weight := 1
            place := 36 }
          rest
      else
        let weight ← bounded? (reading.weight * (36 - limit))
        read?
          { reading with
            position := position
            weight := weight
            place := reading.place + 36 }
          rest

/--
The part before the last hyphen, and the part after it.  A hyphen with nothing
before it parts nothing.
-/
def splitBasic (label : List Char) : List Char × List Char :=
  let reversed := label.reverse
  let tail := (reversed.takeWhile (· != '-')).reverse
  match reversed.dropWhile (· != '-') with
  | [] | [_] => ([], label)
  | _ :: basic => (basic.reverse, tail)

/-- The label that an ASCII form stands for. -/
def decode? (form : List Char) : Option (List Char) :=
  let (basic, digits) := splitBasic form
  if basic.any fun character => 0x7F < character.toNat then none
  else read? ⟨basic, initialCode, initialBias, 0, 0, 1, 36⟩ digits

end WorkspaceStartup.Url.Punycode
