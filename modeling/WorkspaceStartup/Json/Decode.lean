import WorkspaceStartup.Json.Draft

/-!
# Reading values of a wanted shape

A decoder takes a draft to a value of a domain type or to the defect that
stands first in it.  The same decoders read a text and a value that is already
known; the two differ only in how a defect is classed.
-/

namespace WorkspaceStartup

namespace Json

/-- Why a draft does not give the wanted value. -/
inductive Defect
  /-- The text ends too early. -/
  | truncated
  /-- The text is not JSON. -/
  | malformed
  /-- The value has the wrong shape. -/
  | unfit
  /-- More, or something else, stands where the wanted shape leaves no room for it. -/
  | intrusive
  deriving DecidableEq, Repr

namespace Defect

def ofFault : Fault → Defect
  | .truncated => truncated
  | .malformed => malformed

end Defect

/-- The class of a defect that a caller is told. -/
inductive DefectClass
  | endOfText
  | notJson
  | wrongShape
  deriving DecidableEq, Repr

/-- What a decoder reads: a text, or a value that is already known. -/
inductive Source
  | text (text : String)
  | value (value : Json)

/--
An intruder in a text is met by the reading of the text, which finds something
else than it expects; in a known value it is a matter of shape.
-/
def Defect.classIn (source : Source) : Defect → DefectClass
  | .truncated => .endOfText
  | .malformed => .notJson
  | .unfit => .wrongShape
  | .intrusive =>
      match source with
      | .text _ => .notJson
      | .value _ => .wrongShape

/-- A way to read a value out of a draft. -/
abbrev Decoder (α : Type) := Draft → Except Defect α

/-- The defect of a draft of another kind than the wanted one. -/
def otherKind : Draft → Defect
  | .broken _ wanted _ => .ofFault wanted
  | .number (.error fault) => .ofFault fault
  | .text (.error fault) => .ofFault fault
  | _ => .unfit

namespace Decode

def text : Decoder String
  | .text (.ok value) => .ok value
  | draft => .error (otherKind draft)

def bool : Decoder Bool
  | .bool value => .ok value
  | draft => .error (otherKind draft)

/-- A natural number up to the limit. -/
def natural (limit : Nat) : Decoder Nat
  | .number (.ok (.integer value)) =>
      if 0 ≤ value ∧ value ≤ limit then .ok value.toNat else .error .unfit
  | draft => .error (otherKind draft)

/-- Null for an absent value. -/
def optional (decode : Decoder α) : Decoder (Option α)
  | .null => .ok none
  | draft => (decode draft).map some

/-- Only null. -/
def nothing : Decoder Unit
  | .null => .ok ()
  | draft => .error (otherKind draft)

/-- Fails with the fault, if there is one. -/
def noFault : Option Fault → Except Defect Unit
  | none => .ok ()
  | some fault => .error (.ofFault fault)

/-- The items of an array, one after the other. -/
def items (decode : Decoder α) : List Draft → Except Defect (List α)
  | [] => .ok []
  | draft :: drafts => do
      let value ← decode draft
      let values ← items decode drafts
      return value :: values

def list (decode : Decoder α) : Decoder (List α)
  | .array drafts ending => do
      let values ← items decode drafts
      noFault ending
      return values
  | draft => .error (otherKind draft)

/-- The name of a member. -/
def name (draft : Draft) : Except Defect String :=
  match draft.nameOf with
  | .ok name => .ok name
  | .error fault => .error (.ofFault fault)

/-- The members of an object, all under names of the writer's choice. -/
def entries (decode : Decoder α) :
    List (Draft × Draft) → Except Defect (List (String × α))
  | [] => .ok []
  | (label, draft) :: members => do
      let name ← name label
      let value ← decode draft
      let others ← entries decode members
      return (name, value) :: others

/-- An object whose members all have the same shape; the last of a name stays. -/
def dictionary (decode : Decoder α) : Decoder (Dictionary α)
  | .object members ending => do
      let entries ← entries decode members
      noFault ending
      return .ofList entries
  | draft => .error (otherKind draft)

/-- The alternative that a word names. -/
def named (find? : String → Option α) (word : String) : Except Defect α :=
  match find? word with
  | some value => .ok value
  | none => .error .unfit

/--
One of several words: the word itself, or an object whose only member has the
word for its name and a value that `content` takes.
-/
def choice (find? : String → Option α) (content : Decoder Unit) : Decoder α
  | .text (.ok word) => named find? word
  | .text (.error fault) => .error (.ofFault fault)
  | .broken none wanted _ => .error (.ofFault wanted)
  | .broken (some '"') wanted _ => .error (.ofFault wanted)
  | .broken _ _ _ => .error .malformed
  | .object [] (some fault) => .error (.ofFault fault)
  | .object ((label, inside) :: more) ending => do
      let word ← name label
      let value ← named find? word
      content inside
      if !more.isEmpty then .error .intrusive
      noFault ending
      return value
  | _ => .error .intrusive

/-- Null, or an object without members. -/
def nothingOrEmpty : Decoder Unit
  | .object [] none => .ok ()
  | draft => nothing draft

end Decode

/-- The value that the source holds, or the class of the first defect in it. -/
def Source.decode (source : Source) (decode : Decoder α) :
    Except DefectClass α :=
  let outcome : Except Defect α :=
    match source with
    | .value known => decode (.ofJson known)
    | .text written =>
        let (draft, more) := Draft.ofText written
        match decode draft with
        | .error defect => .error defect
        | .ok result => if more then .error .malformed else .ok result
  match outcome with
  | .ok result => .ok result
  | .error defect => .error (defect.classIn source)

/-- The value of the wanted shape that a known value gives. -/
def decodeValue? (decode : Decoder α) (value : Json) : Option α :=
  (decode (.ofJson value)).toOption

end Json

end WorkspaceStartup
