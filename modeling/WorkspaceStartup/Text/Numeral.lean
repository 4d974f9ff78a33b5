/-!
# Numerals

Natural numbers are read from digits in a base, most significant first, and
written in decimal or in hexadecimal.
-/

namespace WorkspaceStartup.Text

/-- The value of one digit, of any base up to sixteen. -/
def digitValue? (character : Char) : Option Nat :=
  let code := character.toNat
  if 48 ≤ code && code ≤ 57 then some (code - 48)
  else if 97 ≤ code && code ≤ 102 then some (code - 87)
  else if 65 ≤ code && code ≤ 70 then some (code - 55)
  else none

/-- The value of one digit of the given base. -/
def digitOf? (base : Nat) (character : Char) : Option Nat :=
  (digitValue? character).filter (· < base)

/-- Digits read after those that gave `value`. -/
def readDigitsAfter? (base value : Nat) : List Char → Option Nat
  | [] => some value
  | character :: characters =>
      match digitOf? base character with
      | some digit => readDigitsAfter? base (value * base + digit) characters
      | none => none

/-- The number that a non-empty run of digits writes. -/
def readDigits? (base : Nat) (characters : List Char) : Option Nat :=
  if characters.isEmpty then none else readDigitsAfter? base 0 characters

/-- A decimal number that may carry a plus sign. -/
def readUnsigned? : List Char → Option Nat
  | '+' :: characters => readDigits? 10 characters
  | characters => readDigits? 10 characters

/-- The number as decimal digits, with no sign and no leading zero. -/
def decimal (number : Nat) : String :=
  String.ofList (Nat.toDigits 10 number)

/-- The hexadecimal digits of the number, at least `width` of them. -/
def hexadecimal (width number : Nat) : List Char :=
  let digits := Nat.toDigits 16 number
  List.replicate (width - digits.length) '0' ++ digits

/-- The lower bits that make up one byte as two upper-case digits. -/
def upperHexByte (byte : UInt8) : List Char :=
  (hexadecimal 2 byte.toNat).map Char.toUpper

/-- The bytes that pairs of hexadecimal digits write. -/
def readBytes? : List Char → Option (List UInt8)
  | [] => some []
  | high :: low :: rest =>
      match digitOf? 16 high, digitOf? 16 low, readBytes? rest with
      | some high, some low, some bytes =>
          some (UInt8.ofNat (high * 16 + low) :: bytes)
      | _, _, _ => none
  | [_] => none

end WorkspaceStartup.Text
