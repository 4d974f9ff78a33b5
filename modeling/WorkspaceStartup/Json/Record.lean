import WorkspaceStartup.Json.Decode

/-!
# Records

A record is an object with fields of known names.  It may also be given as an
array of the fields in their declared order.  Members of other names are
passed over, a name that is known may not come twice, and of several defects
the one that stands first in the text is reported: hence each defect is kept
together with its place.  The name of the member at position `i` has place
`2 * i` and its value place `2 * i + 1`; what concerns the end of the record
has the place after its last member, and an absent field the place after that.
-/

namespace WorkspaceStartup

namespace Json

/-- A value, or a defect with its place in the record. -/
inductive Placed (α : Type)
  | found (value : α)
  | defect (place : Nat) (cause : Defect)
  deriving Repr

namespace Placed

def map (apply : α → β) : Placed α → Placed β
  | .found value => .found (apply value)
  | .defect place cause => .defect place cause

/-- Both values, or the defect that stands first. -/
def both : Placed α → Placed β → Placed (α × β)
  | .found left, .found right => .found (left, right)
  | .found _, .defect place cause => .defect place cause
  | .defect place cause, .found _ => .defect place cause
  | .defect leftPlace left, .defect rightPlace right =>
      if rightPlace < leftPlace then .defect rightPlace right
      else .defect leftPlace left

def toExcept : Placed α → Except Defect α
  | .found value => .ok value
  | .defect _ cause => .error cause

end Placed

/-- The members of a record as they are looked up: a name that is no text finds nothing. -/
abbrev Members := List (Option String × Draft)

/-- The first member of a name, with its position. -/
def findMember? (name : String) : Members → (position : Nat) → Option (Nat × Draft)
  | [], _ => none
  | (some other, draft) :: members, position =>
      if other = name then some (position, draft)
      else findMember? name members (position + 1)
  | (none, _) :: members, position => findMember? name members (position + 1)

/-- The names of a record's fields and the reading of its value from the members. -/
structure Record (α : Type) where
  names : List String
  read : Members → Placed α

namespace Record

def pure (value : α) : Record α := ⟨[], fun _ => .found value⟩

/-- A field that may be absent if it has a value for that case. -/
def field (name : String) (decode : Decoder α) (absent : Option α) : Record α where
  names := [name]
  read members :=
    match findMember? name members 0 with
    | some (position, draft) =>
        match decode draft with
        | .ok value => .found value
        | .error cause => .defect (2 * position + 1) cause
    | none =>
        match absent with
        | some value => .found value
        | none => .defect (2 * members.length + 1) .unfit

/-- Two records of different fields over the same members. -/
def both (left : Record α) (right : Record β) : Record (α × β) where
  names := left.names ++ right.names
  read members := (left.read members).both (right.read members)

def map (apply : α → β) (record : Record α) : Record β where
  names := record.names
  read members := (record.read members).map apply

/-- A function read from some fields and applied to a value read from others. -/
def apply (function : Record (α → β)) (argument : Record α) : Record β :=
  (function.both argument).map fun pair => pair.1 pair.2

instance : Functor Record where
  map := map

instance : Applicative Record where
  pure := pure
  seq function argument := function.apply (argument ())

/--
The first defect of the members themselves: a name that is no text, a known
name that comes again, or a fault in a value that is passed over.
-/
def upkeep (names seen : List String) (position : Nat) (ending : Option Defect) :
    List (Draft × Draft) → Placed Unit
  | [] =>
      match ending with
      | some cause => .defect (2 * position) cause
      | none => .found ()
  | (label, draft) :: members =>
      match label.nameOf with
      | .error fault => .defect (2 * position) (.ofFault fault)
      | .ok name =>
          if name ∈ names then
            if name ∈ seen then .defect (2 * position) .unfit
            else upkeep names (name :: seen) (position + 1) ending members
          else
            match draft.pass with
            | some fault => .defect (2 * position + 1) (.ofFault fault)
            | none => upkeep names seen (position + 1) ending members

/-- The record that members in the order of a text make up. -/
def decodeMembers (record : Record α) (members : List (Draft × Draft))
    (ending : Option Defect) : Except Defect α :=
  let found : Members :=
    members.map fun member => (member.1.nameOf.toOption, member.2)
  ((upkeep record.names [] 0 ending members).both (record.read found)).map (·.2)
    |>.toExcept

/-- Items under the names of the fields. -/
def label (names : List String) (items : List Draft) : List (Draft × Draft) :=
  (names.zip items).map fun pair => (.text (.ok pair.1), pair.2)

/-- A record as an object, or as an array of its fields. -/
def decode (record : Record α) : Decoder α
  | .object members ending =>
      record.decodeMembers members (ending.map .ofFault)
  | .array items ending =>
      let surplus := record.names.length < items.length
      record.decodeMembers (label record.names items)
        (if surplus then some .intrusive else ending.map .ofFault)
  | draft => .error (otherKind draft)

end Record

end Json

end WorkspaceStartup
