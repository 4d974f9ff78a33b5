import WorkspaceStartup.Json.Double

/-!
# Drafts

A draft is the value that a text spells out up to the place where the text
stops making sense; the fault stands in the draft at that place.  Since every
reading of a draft goes through it in the order of the text, the first fault
or misfit of the text is the one that is reported.

The names of members are drafts themselves, because a text may put anything in
the place of a name.
-/

namespace WorkspaceStartup

namespace Json

/-- A value as far as its text spells it out. -/
inductive Draft
  | null
  | bool (value : Bool)
  | number (value : Except Fault Number)
  | text (value : Except Fault String)
  | array (items : List Draft) (ending : Option Fault)
  | object (members : List (Draft × Draft)) (ending : Option Fault)
  /-- Nothing readable: the character that opened it, if any, the fault found
  when the value is wanted, and the fault found when it is passed over. -/
  | broken (opening : Option Char) (wanted passed : Fault)

namespace Draft

instance : Inhabited Draft := ⟨null⟩

/-- Nothing where something was due. -/
def missing (fault : Fault) : Draft := .broken none fault fault

/-- An open array or object around the value being read; lists have the latest first. -/
inductive Frame
  | array (items : List Draft)
  | member (members : List (Draft × Draft)) (name : Draft)

/-- What has been read, and what must come next. -/
inductive Place
  | value (frames : List Frame)
  | firstItem (frames : List Frame)
  | nextItem (items : List Draft) (frames : List Frame)
  | firstName (frames : List Frame)
  | name (members : List (Draft × Draft)) (frames : List Frame)
  | colon (members : List (Draft × Draft)) (name : Draft) (frames : List Frame)
  | nextMember (members : List (Draft × Draft)) (frames : List Frame)
  | done (draft : Draft)

/-- A finished value in its frames. -/
def put (draft : Draft) : List Frame → Place
  | [] => .done draft
  | .array items :: frames => .nextItem (draft :: items) frames
  | .member members name :: frames => .nextMember ((name, draft) :: members) frames

/-- A value that broke off, in its frames, which stay open for good. -/
def abandon (draft : Draft) : List Frame → Draft
  | [] => draft
  | .array items :: frames =>
      abandon (.array (draft :: items).reverse none) frames
  | .member members name :: frames =>
      abandon (.object ((name, draft) :: members).reverse none) frames

/-- The whole value of a token that is one. -/
def ofToken? : Token → Option Draft
  | .null => some .null
  | .bool value => some (.bool value)
  | .number numeral =>
      match numeral.value? with
      | some value => some (.number (.ok value))
      | none => some (.number (.error .malformed))
  | .text value => some (.text value)
  | _ => none

/-- What stands at a place when the token there opens no value. -/
def ofMisplaced : Token → Draft
  | .broken opening wanted passed => .broken (some opening) wanted passed
  | _ => missing .malformed

/-- The token at a place where a value must come. -/
def readValue (frames : List Frame) (token : Token) : Place :=
  match token with
  | .openArray => .firstItem frames
  | .openObject => .firstName frames
  | token =>
      match ofToken? token with
      | some draft => put draft frames
      | none => .done (abandon (ofMisplaced token) frames)

/-- The token at a place where a name must come. -/
def readName (members : List (Draft × Draft)) (frames : List Frame)
    (token : Token) : Place :=
  let refuse (name : Draft) : Place :=
    .done (abandon
      (.object ((name, missing .malformed) :: members).reverse none) frames)
  match token with
  | .text value => .colon members (.text value) frames
  | .openArray => refuse (.array [] (some .malformed))
  | .openObject => refuse (.object [] (some .malformed))
  | token =>
      match ofToken? token with
      | some draft => refuse draft
      | none => refuse (ofMisplaced token)

/-- One more token. -/
def read (place : Place) (token : Token) : Place :=
  match place with
  | .value frames => readValue frames token
  | .firstItem frames =>
      match token with
      | .closeArray => put (.array [] none) frames
      | token => readValue (.array [] :: frames) token
  | .nextItem items frames =>
      match token with
      | .comma => .value (.array items :: frames)
      | .closeArray => put (.array items.reverse none) frames
      | _ => .done (abandon (.array items.reverse (some .malformed)) frames)
  | .firstName frames =>
      match token with
      | .closeObject => put (.object [] none) frames
      | token => readName [] frames token
  | .name members frames => readName members frames token
  | .colon members name frames =>
      match token with
      | .colon => .value (.member members name :: frames)
      | _ =>
          .done (abandon
            (.object ((name, missing .malformed) :: members).reverse none) frames)
  | .nextMember members frames =>
      match token with
      | .comma => .name members frames
      | .closeObject => put (.object members.reverse none) frames
      | _ => .done (abandon (.object members.reverse (some .malformed)) frames)
  | .done draft => .done draft

/-- The draft of a text that ends at this place. -/
def close : Place → Draft
  | .value frames => abandon (missing .truncated) frames
  | .firstItem frames => abandon (.array [] (some .truncated)) frames
  | .nextItem items frames =>
      abandon (.array items.reverse (some .truncated)) frames
  | .firstName frames => abandon (.object [] (some .truncated)) frames
  | .name members frames =>
      abandon (.object
        ((missing .truncated, missing .truncated) :: members).reverse none) frames
  | .colon members name frames =>
      abandon (.object ((name, missing .truncated) :: members).reverse none) frames
  | .nextMember members frames =>
      abandon (.object members.reverse (some .truncated)) frames
  | .done draft => draft

/-- The draft that tokens spell from a place on, and the tokens after it. -/
def readAll : Place → List Token → Draft × List Token
  | .done draft, tokens => (draft, tokens)
  | place, [] => (close place, [])
  | place, token :: tokens => readAll (read place token) tokens

/-- The draft at the start of a text, and whether more than blanks follow it. -/
def ofText (text : String) : Draft × Bool :=
  let (draft, rest) := readAll (.value []) (tokens text.toList)
  (draft, !rest.isEmpty)

mutual

/-- A value as a draft without faults. -/
def ofJson : Json → Draft
  | .null => .null
  | .bool value => .bool value
  | .number value => .number (.ok value)
  | .text value => .text (.ok value)
  | .array items => .array (ofItems items) none
  | .object members => .object (ofMembers members) none

def ofItems : List Json → List Draft
  | [] => []
  | item :: items => ofJson item :: ofItems items

def ofMembers : List (String × Json) → List (Draft × Draft)
  | [] => []
  | (name, value) :: members => (.text (.ok name), ofJson value) :: ofMembers members

end

/-- The name that a draft in the place of a name spells. -/
def nameOf : Draft → Except Fault String
  | .text value => value
  | .broken none wanted _ => .error wanted
  | .broken (some '"') wanted _ => .error wanted
  | _ => .error .malformed

/-- The fault of a name that nobody wants to know. -/
def passName : Draft → Option Fault
  | .text _ => none
  | .broken none _ passed => some passed
  | .broken (some '"') _ passed => some passed
  | _ => some .malformed

mutual

/-- The first fault met when the value is passed over. -/
def pass : Draft → Option Fault
  | .null | .bool _ | .number _ | .text _ => none
  | .broken _ _ passed => some passed
  | .array items ending => (passItems items).orElse fun _ => ending
  | .object members ending => (passMembers members).orElse fun _ => ending

def passItems : List Draft → Option Fault
  | [] => none
  | item :: items => (pass item).orElse fun _ => passItems items

def passMembers : List (Draft × Draft) → Option Fault
  | [] => none
  | (name, value) :: members =>
      (passName name).orElse fun _ =>
        (pass value).orElse fun _ => passMembers members

end

/-- How many arrays and objects may stand around each other. -/
def depthLimit : Nat := 127

/-- Fails with the fault, if there is one. -/
def refuse : Option Fault → Except Fault Unit
  | none => .ok ()
  | some fault => .error fault

mutual

/-- The value of a draft in which at most `room` containers stand around each other. -/
def force (room : Nat) : Draft → Except Fault Json
  | .null => .ok .null
  | .bool value => .ok (.bool value)
  | .number value => value.map .number
  | .text value => value.map .text
  | .broken _ wanted _ => .error wanted
  | .array items ending =>
      if room = 0 then .error .malformed
      else do
        let items ← forceItems (room - 1) items
        refuse ending
        return .array items
  | .object members ending =>
      if room = 0 then .error .malformed
      else do
        let members ← forceMembers (room - 1) members
        refuse ending
        return .filed members

def forceItems (room : Nat) : List Draft → Except Fault (List Json)
  | [] => .ok []
  | item :: items => do
      let item ← force room item
      let items ← forceItems room items
      return item :: items

def forceMembers (room : Nat) :
    List (Draft × Draft) → Except Fault (List (String × Json))
  | [] => .ok []
  | (name, value) :: members => do
      let name ← nameOf name
      let value ← force room value
      let members ← forceMembers room members
      return (name, value) :: members

end

end Draft

/-- The value that a text writes, the members of each object filed by name. -/
def parse (text : String) : Except Fault Json := do
  let (draft, more) := Draft.ofText text
  let value ← draft.force Draft.depthLimit
  if more then .error .malformed else return value

/-- The value that a text writes, if it writes one. -/
def parse? (text : String) : Option Json :=
  (parse text).toOption

end Json

end WorkspaceStartup
