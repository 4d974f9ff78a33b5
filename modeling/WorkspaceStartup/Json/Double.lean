import WorkspaceStartup.Json.Token

/-!
# The value of a numeral

An integer that fits sixty-four bits, with or without a sign, is kept as it
is.  Every other numeral is a real number of double precision.  Its leading
digits are gathered into a word of sixty-four bits as long as they fit, and
the word is then scaled by a power of ten, in steps of at most 308 places.
A numeral whose value is beyond the largest real number has none.
-/

namespace WorkspaceStartup

namespace Json

/-- The largest number that a word of sixty-four bits holds. -/
def wordLimit : Nat := 0xffffffffffffffff

/-- The largest number that a word of thirty-two bits holds. -/
def halfWordLimit : Nat := 0xffffffff

/-- The largest power of ten that a numeral may name. -/
def powerLimit : Nat := 0x7fffffff

/-- The digits that fit a word after the given number, and the digits left over. -/
def gather (value : Nat) : List Nat → Nat × List Nat
  | [] => (value, [])
  | digit :: digits =>
      if value * 10 + digit ≤ wordLimit then gather (value * 10 + digit) digits
      else (value, digit :: digits)

/-- A number that is an exact power of ten as far as double precision allows. -/
def powerOfTen (power : Nat) : Float := Float.ofScientific 1 false power

/-- The product with a power of ten, or none when it is beyond every real number. -/
def scaleUp? (value : Float) (power : Nat) : Option Float :=
  let scaled := value * powerOfTen power
  if scaled.isInf then none else some scaled

/-- The value divided by a power of ten, in steps of 308 places. -/
def scaleDown (value : Float) (power : Nat) : Float :=
  if power ≤ 308 then value / powerOfTen power
  else if value == 0.0 then value
  else scaleDown (value / powerOfTen 308) (power - 308)
termination_by power

/-- The value times a power of ten, which may be negative. -/
def scale? (value : Float) (power : Int) : Option Float :=
  if 0 ≤ power then
    if power ≤ 308 then scaleUp? value power.toNat
    else if value == 0.0 then some value
    else none
  else some (scaleDown value (-power).toNat)

/-- The power of ten that digits name, when it is within the limit. -/
def readPower? (value : Nat) : List Nat → Option Nat
  | [] => some value
  | digit :: digits =>
      if value * 10 + digit ≤ powerLimit then
        readPower? (value * 10 + digit) digits
      else none

/-- A real number by its sign and its magnitude. -/
def signedReal (negative : Bool) (magnitude : Float) : Number :=
  .real (if negative then -magnitude else magnitude).toBits

namespace Numeral

/-- A numeral without fraction and power whose digits fit a word. -/
def integer (negative : Bool) (magnitude : Nat) : Number :=
  if negative then
    if 0 < magnitude ∧ magnitude ≤ 0x8000000000000000 then .integer (-magnitude)
    else signedReal true (UInt64.ofNat magnitude).toFloat
  else .integer magnitude

/-- The number that a numeral writes, unless it is beyond every real number. -/
def value? (numeral : Numeral) : Option Number :=
  let (significand, dropped) := gather 0 numeral.whole
  if dropped.isEmpty && numeral.fraction.isEmpty && numeral.power.isNone then
    some (integer numeral.negative significand)
  else
    let (digits, unread) := gather significand numeral.fraction
    let places := numeral.fraction.length - unread.length
    -- Dropped digits before the point move it, those behind it do not count.
    let shift : Int := (dropped.length : Int) - places
    let word := (UInt64.ofNat digits).toFloat
    match numeral.power with
    | none => (scale? word shift).map (signedReal numeral.negative)
    | some power =>
        match readPower? 0 power with
        | some power =>
            let shift := if numeral.powerNegative then shift - power else shift + power
            (scale? word shift).map (signedReal numeral.negative)
        | none =>
            if digits ≠ 0 ∧ !numeral.powerNegative then none
            else some (signedReal numeral.negative 0.0)

end Numeral

end Json

end WorkspaceStartup
