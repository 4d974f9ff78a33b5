import WorkspaceStartup.Text.Numeral

/-!
# Shortest decimal form of a real number

A real number of double precision stands for every real number that rounds to
it.  Among the decimal numbers in that interval the coarsest grid of powers of
ten is chosen, and on it the number nearest to the exact value; of two equally
near numbers the even one.
-/

namespace WorkspaceStartup

/-- A positive real number, `significand * 2 ^ exponent`. -/
structure Binary where
  significand : Nat
  exponent : Int
  deriving DecidableEq, Repr

/-- A positive real number, `digits * 10 ^ exponent`. -/
structure DecimalForm where
  digits : Nat
  exponent : Int
  deriving DecidableEq, Repr

namespace Binary

/-- The leading bit of a significand, which is not stored. -/
def hiddenBit : Nat := 0x10000000000000

/-- The finite positive number whose sign bit was dropped from these bits. -/
def ofBits (bits : UInt64) : Binary :=
  let fraction : Nat := bits.toNat % hiddenBit
  let scale : Nat := bits.toNat / hiddenBit % 0x800
  if scale = 0 then ⟨fraction, -1074⟩
  else ⟨fraction + hiddenBit, (scale : Int) - 1075⟩

/-- The lower neighbour is half as far away as the upper one. -/
def narrowBelow (number : Binary) : Bool :=
  number.significand == hiddenBit && decide (-1074 < number.exponent)

/--
The bounds of the interval of real numbers that round to this one, the number
itself between them, all three as numerators over one denominator, measured in
steps of `10 ^ place`.
-/
def onGrid (number : Binary) (place : Int) : (Nat × Nat × Nat) × Nat :=
  let quarter := number.exponent - 2
  let scale := Nat.pow 2 quarter.toNat * Nat.pow 10 (-place).toNat
  let below := if number.narrowBelow then 1 else 2
  let middle := 4 * number.significand
  (((middle - below) * scale, middle * scale, (middle + 2) * scale),
    Nat.pow 2 (-quarter).toNat * Nat.pow 10 place.toNat)

/-- The nearest number of steps of `10 ^ place` that rounds to this number. -/
def nearestOnGrid? (number : Binary) (place : Int) : Option Nat :=
  let ((low, middle, high), unit) := number.onGrid place
  let inside := fun count =>
    if number.significand % 2 = 0 then
      decide (0 < count ∧ low ≤ count * unit ∧ count * unit ≤ high)
    else decide (0 < count ∧ low < count * unit ∧ count * unit < high)
  let below := middle / unit
  let above := below + 1
  match inside below, inside above with
  | true, true =>
      let downward := middle - below * unit
      let upward := above * unit - middle
      if downward < upward then some below
      else if upward < downward then some above
      else if below % 2 = 0 then some below else some above
  | true, false => some below
  | false, true => some above
  | false, false => none

/-- Tries the grid of `10 ^ place` and finer ones. -/
def shortestFrom (number : Binary) (place : Int) : Nat → DecimalForm
  | 0 => ⟨0, place⟩
  | tries + 1 =>
      match number.nearestOnGrid? place with
      | some digits => ⟨digits, place⟩
      | none => shortestFrom number (place - 1) tries

/-- The shortest decimal number that rounds to this one. -/
def shortest (number : Binary) : DecimalForm :=
  number.shortestFrom 309 640

end Binary

end WorkspaceStartup
