import WorkspaceStartup.CommandLine.Basic

/-!
# Reading the command line

Arguments are read from left to right, first those before the command, then
those after it.  The value of an option is judged only when the next argument
of a known name, or the end, shows that it is complete.  What is wrong after
the command is found before what is still open before it.
-/

namespace WorkspaceStartup.CommandLine

/-- An option whose value is due or has been given but not judged. -/
structure Open where
  slot : Slot
  value : Option String
  deriving DecidableEq, Repr

/-- The reading of one level. -/
structure Reading where
  values : Values
  pending : Option Open
  /-- A double dash has been read, so only plain arguments follow. -/
  plainOnly : Bool
  /-- The only plain argument has been read. -/
  plainRead : Bool
  deriving DecidableEq, Repr

namespace Reading

def start : Reading := ⟨.none, none, false, false⟩

/-- Judges the value that is still open. -/
def settle (reading : Reading) : Except UsageDefect Reading :=
  match reading.pending with
  | none => .ok reading
  | some ⟨_, none⟩ => .error .missingValue
  | some ⟨slot, some value⟩ =>
      (reading.values.put slot value).map fun values =>
        { reading with values := values, pending := none }

/-- The next argument is due as a value. -/
def awaits (reading : Reading) : Bool :=
  !reading.plainOnly && reading.pending.any fun entry => entry.value.isNone

/-- Opens an option whose value is to follow. -/
def expect (reading : Reading) (slot : Slot) : Except UsageDefect Reading :=
  reading.settle.map fun reading => { reading with pending := some ⟨slot, none⟩ }

/-- Takes an option together with its value. -/
def take (reading : Reading) (slot : Slot) (value : String) :
    Except UsageDefect Reading := do
  let reading ← reading.settle
  let values ← reading.values.put slot value
  return { reading with values := values }

def raise (reading : Reading) (flag : Flag) : Except UsageDefect Reading := do
  let reading ← reading.settle
  match flag with
  | .help => .error .helpRequested
  | .version => .error .versionRequested
  | .jsonLogs =>
      if reading.values.jsonLogs then .error .repeated
      else return { reading with values := { reading.values with jsonLogs := true } }

/-- Takes an argument that starts with two dashes. -/
def takeLong (reading : Reading) (level : Level) (body : List Char) :
    Except UsageDefect Reading :=
  let (name, attached) :=
    match Text.cutFirst? ['='] body with
    | some (name, value) => (name, some (String.ofList value))
    | none => (body, none)
  match longOption? level (String.ofList name), attached with
  | some (.slot slot), some value => reading.take slot value
  | some (.slot slot), none => reading.expect slot
  | some (.flag _), some _ => .error .unwantedValue
  | some (.flag flag), none => reading.raise flag
  | none, _ => .error .unknownArgument

/-- Takes the letters of an argument that starts with one dash. -/
def takeShort (reading : Reading) (level : Level) :
    List Char → Except UsageDefect Reading
  | [] => .ok reading
  | letter :: letters =>
      match shortFlag? level letter with
      | none => .error .unknownArgument
      | some flag => do
          let reading ← reading.raise flag
          reading.takeShort level letters

/-- Takes an argument that is neither an option nor the value of one. -/
def takePlain (reading : Reading) (level : Level) (text : String) :
    Except UsageDefect Reading :=
  match level with
  | .top =>
      if reading.plainOnly && ["list", "start", "help"].contains text then
        .error .unknownArgument
      else .error .unknownCommand
  | .list => .error .unknownArgument
  | .start =>
      if reading.plainRead then .error .unknownArgument
      else
        reading.settle.map fun reading =>
          { reading with
            pending := some ⟨.workspace, some text⟩
            plainRead := true }

def takeArgument (reading : Reading) (level : Level) (text : String) :
    Except UsageDefect Reading :=
  if reading.plainOnly then reading.takePlain level text
  else
    match text.toList with
    | ['-', '-'] => .ok { reading with plainOnly := true }
    | '-' :: '-' :: body => reading.takeLong level body
    | '-' :: letter :: letters => reading.takeShort level (letter :: letters)
    | _ =>
        match reading.pending with
        | some ⟨slot, none⟩ =>
            .ok { reading with pending := some ⟨slot, some text⟩ }
        | _ => reading.takePlain level text

/-- Takes the arguments after a command. -/
def takeAll (reading : Reading) (level : Level) :
    List String → Except UsageDefect Reading
  | [] => reading.settle
  | text :: texts => do
      let reading ← reading.takeArgument level text
      reading.takeAll level texts

end Reading

/-- The command and the values after it. -/
def readCommand (level : Level) (arguments : List String) :
    Except UsageDefect (Command × Values) := do
  let reading ← Reading.start.takeAll level arguments
  let values := reading.values
  match level, values.workspaceId with
  | .start, some id =>
      return (.start
        { workspaceId := id
          budget := values.budget
          retryDelayMs := values.retryDelayMs
          fixedPort := values.fixedPort
          action := values.action
          parameters := values.parameters }, values)
  | .start, none => .error .missingArgument
  | _, _ => return (.list, values)

/-- Help on the command that is named, or on all. -/
def help : List String → UsageDefect
  | [] => .helpRequested
  | [word] =>
      if ["list", "start", "help"].contains word then .helpRequested
      else .unknownCommand
  | _ => .unknownCommand

/-- Ends the reading at a command; what stands after it wins over what stands before. -/
def finish (reading : Reading) (level : Level) (arguments : List String) :
    Except UsageDefect Invocation := do
  let (command, inner) ← readCommand level arguments
  let outer := (← reading.settle).values
  return {
    server := inner.server.or outer.server
    bus := inner.bus.or outer.bus
    jsonLogs := inner.jsonLogs || outer.jsonLogs
    command := command }

/-- Reads arguments that stand before the command. -/
def readTop (reading : Reading) : List String → Except UsageDefect Invocation
  | [] => do
      let reading ← reading.settle
      if reading.values.isNone then .error .nothingGiven
      else .error .missingCommand
  | text :: texts =>
      if reading.plainOnly || reading.awaits then do
        let reading ← reading.takeArgument .top text
        readTop reading texts
      else if text = "list" then finish reading .list texts
      else if text = "start" then finish reading .start texts
      else if text = "help" then .error (help texts)
      else do
        let reading ← reading.takeArgument .top text
        readTop reading texts

/-- The invocation that arguments make up. -/
def read (arguments : List String) : Except UsageDefect Invocation :=
  readTop .start arguments

end WorkspaceStartup.CommandLine
