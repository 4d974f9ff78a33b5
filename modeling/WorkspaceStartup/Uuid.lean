import WorkspaceStartup.Text.Numeral

/-!
# Universally unique identifiers

An identifier of 128 bits made from random bits, with or without the time of
its making in front.  Its layout marks the version and the variant, the rest
is free.
-/

namespace WorkspaceStartup

structure Uuid where
  bits : Nat
  deriving DecidableEq, Repr

namespace Uuid

/-- The number of values of this many bits. -/
def capacity (count : Nat) : Nat := Nat.pow 2 count

/-- The identifier with 48 leading, 12 middle and 62 trailing free bits. -/
def layout (version leading middle trailing : Nat) : Uuid :=
  ⟨leading % capacity 48 * capacity 80 + version % capacity 4 * capacity 76 +
    middle % capacity 12 * capacity 64 + 2 * capacity 62 + trailing % capacity 62⟩

/-- Version 4: every free bit is random. -/
def ofRandom (random : Nat) : Uuid :=
  layout 4 (random / capacity 74) (random / capacity 62) random

/-- Version 7: the leading bits count milliseconds. -/
def ofTime (milliseconds random : Nat) : Uuid :=
  layout 7 milliseconds (random / capacity 62) random

/-- The 32 digits of the identifier. -/
def digits (uuid : Uuid) : List Char :=
  Text.hexadecimal 32 uuid.bits

/-- The digits in groups of 8, 4, 4, 4 and 12. -/
def text (uuid : Uuid) : String :=
  let digits := uuid.digits
  let group (start count : Nat) := (digits.drop start).take count
  String.ofList (group 0 8 ++ '-' :: (group 8 4 ++ '-' :: (group 12 4 ++
    '-' :: (group 16 4 ++ '-' :: group 20 12))))

end Uuid

end WorkspaceStartup
