import WorkspaceStartup.Dictionary

/-!
# JSON values

A value that JSON text can write.  A number is an integer or a real number of
double precision; the two are kept apart, so `1.0` is never taken for `1`.
A real number is held by its bits, which makes equality decidable and tells
the two zeros apart.
-/

namespace WorkspaceStartup

inductive Number
  | integer (value : Int)
  | real (bits : UInt64)
  deriving DecidableEq, Repr

/-- A value of JSON; the members of an object keep the order they are listed in. -/
inductive Json
  | null
  | bool (value : Bool)
  | number (value : Number)
  | text (value : String)
  | array (items : List Json)
  | object (members : List (String × Json))
  deriving Repr

namespace Json

instance : Inhabited Json := ⟨null⟩

def natural (value : Nat) : Json := .number (.integer value)

/-- An object of the given members, filed by name with the last of a name kept. -/
def filed (members : List (String × Json)) : Json :=
  .object (fileEntries members)

/-- The members of an object; another value has none. -/
def members : Json → List (String × Json)
  | .object members => members
  | _ => []

/-- The member of an object under the name. -/
def member? (value : Json) (name : String) : Option Json :=
  lookUp? name value.members

/-- The text that the value is. -/
def text? : Json → Option String
  | .text value => some value
  | _ => none

/-- The text under a name of an object. -/
def textMember? (value : Json) (name : String) : Option String :=
  (value.member? name).bind text?

def isObject : Json → Bool
  | .object _ => true
  | _ => false

/-- Null for an absent value. -/
def ofOption (encode : α → Json) : Option α → Json
  | none => .null
  | some value => encode value

/-- A member that is left out when its value is absent. -/
def optionalMember (name : String) (encode : α → Json) (value : Option α) :
    List (String × Json) :=
  (value.map fun value => (name, encode value)).toList

def ofTexts (texts : List String) : Json :=
  .array (texts.map .text)

end Json

end WorkspaceStartup
