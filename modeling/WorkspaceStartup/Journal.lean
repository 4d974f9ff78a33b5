import WorkspaceStartup.Event

/-!
# Journals

What is done to the outside is entered into a journal: events, reports,
requests to the service, and the opening and closing of the agent's link.
-/

namespace WorkspaceStartup

/-- Something done to the outside. -/
inductive Deed
  | announced (event : Event)
  | reported (report : Report)
  | askedStart (id : WorkspaceId) (environment : String)
  | askedStatus (id : WorkspaceId) (target : Status)
  | askedDetails (id : WorkspaceId)
  | opened (url : String)
  /-- The link has returned an open connection. -/
  | connected (url : String)
  | closed (url : String)
  deriving DecidableEq, Repr

namespace Deed

def event? : Deed → Option Event
  | announced event => some event
  | _ => none

def report? : Deed → Option Report
  | reported report => some report
  | _ => none

/-- The URL that the link was asked to open. -/
def openedUrl? : Deed → Option String
  | opened url => some url
  | _ => none

def isClosing : Deed → Bool
  | closed _ => true
  | _ => false

end Deed

/-- A deed with its time and the position of the start on whose behalf it was done. -/
structure Entry where
  start : Nat
  time : Nat
  deed : Deed
  deriving DecidableEq, Repr

namespace Entry

def events (entries : List Entry) : List Event :=
  entries.filterMap (·.deed.event?)

def reports (entries : List Entry) : List Report :=
  entries.filterMap (·.deed.report?)

/-- The openings of the link among entries, with their times. -/
def openings (entries : List Entry) : List (String × Nat) :=
  entries.filterMap fun entry =>
    entry.deed.openedUrl?.map fun url => (url, entry.time)

/-- How many connections were closed among entries. -/
def closings (entries : List Entry) : Nat :=
  (entries.filter (·.deed.isClosing)).length

end Entry

/-- What a listener hears who comes back after a while. -/
structure Hearing where
  missed : Nat
  events : List Event
  deriving DecidableEq, Repr

namespace Hearing

/-- How many events are kept for a listener. -/
def capacity : Nat := 256

/-- The latest events that are still kept, out of all since the last hearing. -/
def ofEvents (events : List Event) : Hearing :=
  let missed := events.length - capacity
  ⟨missed, events.drop missed⟩

end Hearing

end WorkspaceStartup
