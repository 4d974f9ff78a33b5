import WorkspaceStartup.Text.Numeral
import WorkspaceStartup.Text.Blank

/-!
# Spans of time

A span is a whole number of nanoseconds.  It is written in the largest of the
units second, millisecond, microsecond and nanosecond that it reaches, as a
decimal fraction without trailing zeros.
-/

namespace WorkspaceStartup

/-- A span of time. -/
structure Duration where
  nanoseconds : Nat
  deriving DecidableEq, Repr

namespace Duration

def ofMilliseconds (milliseconds : Nat) : Duration :=
  ⟨milliseconds * 1000000⟩

/-- A number of units, with `places` decimal places for the remainder. -/
def inUnit (nanoseconds size places : Nat) (unit : String) : String :=
  let digits := Nat.toDigits 10 (nanoseconds % size)
  let padded := List.replicate (places - digits.length) '0' ++ digits
  let fraction := Text.dropEndWhile (· == '0') padded
  let whole := Text.decimal (nanoseconds / size)
  if fraction.isEmpty then whole ++ unit
  else whole ++ "." ++ String.ofList fraction ++ unit

/-- The span in the largest unit that it reaches. -/
def text (duration : Duration) : String :=
  let nanoseconds := duration.nanoseconds
  if 1000000000 ≤ nanoseconds then inUnit nanoseconds 1000000000 9 "s"
  else if 1000000 ≤ nanoseconds then inUnit nanoseconds 1000000 6 "ms"
  else if 1000 ≤ nanoseconds then inUnit nanoseconds 1000 3 "µs"
  else Text.decimal nanoseconds ++ "ns"

end Duration

end WorkspaceStartup
