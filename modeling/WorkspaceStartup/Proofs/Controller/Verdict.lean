import WorkspaceStartup.Proofs.Controller.Noninterference

/-!
# What a startup leads to

The collaborators of a start are asked one after the other: the service to start
the workspace, two watches for its status, the service again for the details,
and the link for a connection.  The first of them that fails decides how the
start ends, and nobody is asked after it.
-/

namespace WorkspaceStartup

/-- The deed, if it asks a collaborator for something. -/
def Deed.request? : Deed → Option Deed
  | .announced _ | .reported _ | .connected _ | .closed _ => none
  | .askedStart id environment => some (.askedStart id environment)
  | .askedStatus id target => some (.askedStatus id target)
  | .askedDetails id => some (.askedDetails id)
  | .opened url => some (.opened url)

/-- What is started, how everybody who is asked for it answers, and in which orders
details are read. -/
structure Startup where
  workspace : Workspace
  config : Config
  orders : Machine.Orders
  started : Except ControlFailure StartResult
  /-- The end of the status watch that ends first, be it the one for the running
  workspace or the one for its error. -/
  watched : Except ControlFailure StatusChange
  fetched : Except ControlFailure Workspace
  /-- How the tries to open the link end. -/
  tries : Nat → Except LinkFailure Unit

namespace Startup

variable {startup : Startup} {url other : String} {made : Nat}

/-- How many tries there may be: at least one. -/
def budget (startup : Startup) : Nat := max startup.config.budget 1

theorem budget_pos (startup : Startup) : 0 < startup.budget :=
  Nat.le_max_right ..

/-- All tries before a position fail. -/
def FailsUntil (startup : Startup) (position : Nat) : Prop :=
  ∀ earlier < position, startup.tries earlier ≠ .ok ()

theorem failsUntil_zero : startup.FailsUntil 0 := by
  intro earlier impossible
  exact (Nat.not_lt_zero earlier impossible).elim

/-- The service starts the workspace, and no watch fails or sees an error. -/
structure Runs (startup : Startup) : Prop where
  started : ∃ result, startup.started = .ok result
  watched : ∃ change, startup.watched = .ok change ∧ change.status ≠ .error

/-- The details of the running workspace say that its agent is at the URL. -/
structure Reaches (startup : Startup) (url : String) : Prop where
  runs : startup.Runs
  fetched : ∃ details, startup.fetched = .ok details ∧
    startup.config.strategy.resolveIn? startup.orders details = some url

/-! ## Requests -/

/-- What is asked first. -/
def asked (startup : Startup) : List Deed :=
  [.askedStart startup.workspace.id
    startup.workspace.config.defaultEnvironment]

/-- What has been asked when the status is watched. -/
def watching (startup : Startup) : List Deed :=
  startup.asked ++ [.askedStatus startup.workspace.id .running,
    .askedStatus startup.workspace.id .error]

/-- What has been asked when the details are fetched. -/
def fetching (startup : Startup) : List Deed :=
  startup.watching ++ [.askedDetails startup.workspace.id]

/-- What has been asked when the link has been tried some times. -/
def opening (startup : Startup) (url : String) (count : Nat) : List Deed :=
  startup.fetching ++ List.replicate count (.opened url)

theorem opening_succ (startup : Startup) (url : String) (count : Nat) :
    startup.opening url (count + 1) =
      startup.opening url count ++ [.opened url] := by
  rw [opening, opening, List.replicate_succ', List.append_assoc]

/-! ## Results -/

/-- The result of the start, and all that is asked until then. -/
inductive Leads (startup : Startup) :
    Except StartFailure Unit → List Deed → Prop
  | rejected {cause : ControlFailure}
      (refused : startup.started = .error cause) :
      Leads startup (.error (.requestRejected cause)) startup.asked
  | unwatched {result : StartResult} {cause : ControlFailure}
      (started : startup.started = .ok result)
      (failed : startup.watched = .error cause) :
      Leads startup (.error (.watchFailed cause)) startup.watching
  | explained {result : StartResult} {change : StatusChange} {message : String}
      (started : startup.started = .ok result)
      (watched : startup.watched = .ok change)
      (errored : change.status = .error)
      (told : change.error = some message) (worded : message ≠ "") :
      Leads startup (.error (.remote message)) startup.watching
  | unexplained {result : StartResult} {change : StatusChange}
      (started : startup.started = .ok result)
      (watched : startup.watched = .ok change)
      (errored : change.status = .error)
      (wordless : change.error = none ∨ change.error = some "") :
      Leads startup (.error (.remote "workspace failed to start"))
        startup.watching
  | unknown {cause : ControlFailure} (runs : startup.Runs)
      (failed : startup.fetched = .error cause) :
      Leads startup (.error (.detailsUnavailable cause)) startup.fetching
  | unreachable {details : Workspace} (runs : startup.Runs)
      (fetched : startup.fetched = .ok details)
      (nowhere : startup.config.strategy.resolveIn? startup.orders details =
        none) :
      Leads startup (.error .endpointUnavailable) startup.fetching
  | connected {url : String} {made : Nat} (reaches : startup.Reaches url)
      (within : made < startup.budget) (failed : startup.FailsUntil made)
      (succeeded : startup.tries made = .ok ()) :
      Leads startup (.ok ()) (startup.opening url (made + 1))
  | exhausted {url : String} {last : LinkFailure}
      (reaches : startup.Reaches url)
      (failed : startup.FailsUntil startup.budget)
      (failing : startup.tries (startup.budget - 1) = .error last) :
      Leads startup (.error (.connectionExhausted startup.budget last))
        (startup.opening url startup.budget)

theorem Leads.ofStatusError {result : StartResult} {change : StatusChange}
    (started : startup.started = .ok result)
    (watched : startup.watched = .ok change)
    (errored : change.status = .error) :
    startup.Leads (.error (.ofStatusError change.error)) startup.watching := by
  cases told : change.error with
  | none => exact .unexplained started watched errored (.inl told)
  | some message =>
      by_cases wordless : message = ""
      · subst wordless
        exact .unexplained started watched errored (.inr told)
      · have shown : StartFailure.ofStatusError (some message) =
            .remote message := by
          simp [StartFailure.ofStatusError, Option.filter, wordless]
        rw [shown]
        exact .explained started watched errored told wordless

theorem Reaches.unique (first : startup.Reaches url)
    (second : startup.Reaches other) : url = other := by
  obtain ⟨-, details, fetched, resolved⟩ := first
  obtain ⟨-, details', fetched', resolved'⟩ := second
  rw [fetched] at fetched'
  cases fetched'
  exact Option.some.inj (resolved.symm.trans resolved')

/-- There is only one first success. -/
theorem FailsUntil.unique {first second : Nat}
    (before : startup.FailsUntil first)
    (succeeds : startup.tries first = .ok ())
    (beforeOther : startup.FailsUntil second)
    (succeedsOther : startup.tries second = .ok ()) : first = second := by
  rcases Nat.lt_trichotomy first second with earlier | same | later
  · exact (beforeOther first earlier succeeds).elim
  · exact same
  · exact (before second later succeedsOther).elim

/-- The answers decide the result and the requests. -/
theorem Leads.unique {result ended : Except StartFailure Unit}
    {requests others : List Deed} (first : startup.Leads result requests)
    (second : startup.Leads ended others) :
    ended = result ∧ others = requests := by
  cases first with
  | rejected | unwatched | explained | unexplained | unknown | unreachable =>
      -- Two answers of the service are the same, or they exclude each other.
      cases second <;> grind [Runs, Reaches]
  | connected reaches within failed succeeded =>
      cases second with
      | connected reachesOther _ failedOther succeededOther =>
          cases reaches.unique reachesOther
          cases failed.unique succeeded failedOther succeededOther
          exact ⟨rfl, rfl⟩
      | exhausted _ failedAll => exact (failedAll _ within succeeded).elim
      | _ => grind [Runs, Reaches]
  | exhausted reaches failed failing =>
      cases second with
      | connected _ within _ succeeded => exact (failed _ within succeeded).elim
      | exhausted reachesOther _ failingOther =>
          cases reaches.unique reachesOther
          rw [failing] at failingOther
          cases failingOther
          exact ⟨rfl, rfl⟩
      | _ => grind [Runs, Reaches]

end Startup

end WorkspaceStartup
