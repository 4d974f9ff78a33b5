import WorkspaceStartup.Failure

/-!
# A scripted link

A link to an agent that is not there.  It plays the outcomes of a script one
after the other and then a last one for ever.  A gated link lets each opening
wait for a permit before it takes its outcome from the script.
-/

namespace WorkspaceStartup

/-- A link that plays a script. -/
structure ScriptedLink where
  outcomes : List (Except LinkFailure Unit)
  fallback : Except LinkFailure Unit
  gated : Bool
  permits : Nat

namespace ScriptedLink

/-- The failure of a link that nobody listens to. -/
def refusal : LinkFailure := .refused "connection refused"

/-- A link that plays only its last outcome. -/
def always (outcome : Except LinkFailure Unit) : ScriptedLink :=
  ⟨[], outcome, false, 0⟩

/-- A link that fails a number of times before it opens. -/
def failingTimes (count : Nat) : ScriptedLink :=
  ⟨List.replicate count (.error refusal), .ok (), false, 0⟩

def release (link : ScriptedLink) : ScriptedLink :=
  { link with permits := link.permits + 1 }

/-- An opening need not wait any longer. -/
def isOpen (link : ScriptedLink) : Bool := !link.gated || 0 < link.permits

/-- The next outcome, for which a gated link uses up a permit. -/
def play (link : ScriptedLink) : Except LinkFailure Unit × ScriptedLink :=
  let link :=
    if link.gated then { link with permits := link.permits - 1 } else link
  match link.outcomes with
  | outcome :: outcomes => (outcome, { link with outcomes := outcomes })
  | [] => (link.fallback, link)

end ScriptedLink

end WorkspaceStartup
