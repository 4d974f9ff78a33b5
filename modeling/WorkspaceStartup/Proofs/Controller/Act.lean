import Mathlib.Logic.Relation
import WorkspaceStartup.Controller.Move
import WorkspaceStartup.Proofs.Progress
import WorkspaceStartup.Proofs.Subscription

/-!
# What is done on behalf of a start

A move carries a start a whole turn further.  Such a turn is put together from
acts, each of which says what it presupposes: `Shows` are the changes that an
owner of the progress makes to what is shown, `Act` is anything done before
the call of the start changes, and `CallChange` is that change.  Every one of
them leaves the other starts and the generations alone (`Within`).
-/

namespace WorkspaceStartup

/-- The deed is no event, no report, and no opening of the link. -/
def Deed.Quiet (deed : Deed) : Prop :=
  deed.event? = none ∧ deed.report? = none ∧ deed.openedUrl? = none

/-- The line that the failure leaves in the log of the current step. -/
def StartFailure.failureLine : StartFailure → String
  | .requestRejected _ => Controller.rejectedLine
  | failure => failure.shown

namespace Controller

def call? (controller : Controller) (start : Nat) : Option Call :=
  controller.starts[start]?.map (·.call)

/-- The channels that the attempt of a start holds. -/
def channels? (controller : Controller) (start : Nat) : Option (List String) :=
  controller.starts[start]?.map (·.attempt.channels)

def reported? (controller : Controller) (start : Nat) : Option Bool :=
  controller.starts[start]?.map (·.reported)

/-- The call of the start waits for the service to answer its request. -/
def Unanswered (controller : Controller) (start : Nat) : Prop :=
  controller.call? start = some (.pending .starting)

/-- The attempt is that of the start, whatever channels it holds by now. -/
def Runs (controller : Controller) (start : Nat) (attempt : Attempt) : Prop :=
  ∃ entry, controller.starts[start]? = some entry ∧
    entry.attempt.bare = attempt.bare

/-- The attempt of a start and the bus have changed together. -/
def putAttempt (controller : Controller) (start : Nat)
    (state : Attempt × Bus Handler) : Controller :=
  { controller.changeStart start fun entry => { entry with attempt := state.1 }
    with bus := state.2 }

/-- An owner of the progress changes what is shown. -/
inductive Shows (start : Nat) (controller : Controller) : Controller → Prop
  | advanced {attempt : Attempt} {step : Nat} {tracker : Tracker}
      (runs : controller.Runs start attempt)
      (owned : controller.owns attempt = true)
      (moved : controller.tracker.advance step = some tracker) :
      Shows start controller
        ({ controller with tracker := tracker }.announce start
          (.stepAdvanced attempt.workspaceId step))
  | logged {attempt : Attempt} {step : Nat} {line : String} {tracker : Tracker}
      (runs : controller.Runs start attempt)
      (owned : controller.owns attempt = true)
      (added : controller.tracker.append step line = some tracker) :
      Shows start controller
        ({ controller with tracker := tracker }.announce start
          (.stepLogged attempt.workspaceId step line))
  | relogged {attempt : Attempt} {step : Nat} {line : String}
      {tracker : Tracker} (runs : controller.Runs start attempt)
      (owned : controller.owns attempt = true)
      (replaced : controller.tracker.replaceLog step line = some tracker)
      (unanswered : controller.Unanswered start) :
      Shows start controller
        ({ controller with tracker := tracker }.announce start
          (.stepLogged attempt.workspaceId step line))
  | marked {attempt : Attempt} {step : Nat} {tracker : Tracker}
      (runs : controller.Runs start attempt)
      (owned : controller.owns attempt = true)
      (mark : controller.tracker.markFailed step = some tracker) :
      Shows start controller
        ({ controller with tracker := tracker }.announce start
          (.stepFailed attempt.workspaceId step))
  | reported {entry : Start} (report : Report)
      (found : controller.starts[start]? = some entry)
      (owned : controller.owns entry.attempt = true)
      (first : entry.reported = false) :
      Shows start controller
        ((controller.changeStart start fun entry =>
          { entry with reported := true }).enter start (.reported report))

/-- Something is done on behalf of a start whose call stays as it is. -/
inductive Act (start : Nat) (controller : Controller) : Controller → Prop
  | shown {next : Controller} (shows : Shows start controller next) :
      Act start controller next
  | noted {attempt : Attempt} (deed : Deed)
      (runs : controller.Runs start attempt) (quiet : deed.Quiet) :
      Act start controller (controller.enter start deed)
  | tried {attempt : Attempt} (run : Reconnect)
      (runs : controller.Runs start attempt)
      (current : controller.isCurrent attempt = true) :
      Act start controller
        ((controller.announce start
            (.connectAttempted attempt.workspaceId run.made run.remaining)).enter
          start (.opened run.url))
  | tornDown {entry : Start} (found : controller.starts[start]? = some entry) :
      Act start controller (controller.teardown start)
  | subscribed {entry : Start} {links : List Link} {next : Controller}
      (found : controller.starts[start]? = some entry)
      (pending : entry.call = .pending .starting)
      (accepted :
        controller.subscribeChannels? start entry.attempt links = some next) :
      Act start controller next

/-- Any number of changes of what is shown. -/
abbrev Showing (start : Nat) : Controller → Controller → Prop :=
  Relation.ReflTransGen (Shows start)

/-- Any number of acts. -/
abbrev Acts (start : Nat) : Controller → Controller → Prop :=
  Relation.ReflTransGen (Act start)

/-- The call of a start comes into another state. -/
inductive CallChange (start : Nat) (controller : Controller) :
    Controller → Prop
  | waits (stage : Stage) (later : stage ≠ .starting) :
      CallChange start controller (controller.setCall start (.pending stage))
  | leaves : CallChange start controller (controller.setCall start .dropped)
  | yields {attempt : Attempt} (runs : controller.Runs start attempt)
      (late : controller.isCurrent attempt = false ∨
        controller.owns attempt = false)
      (empty : controller.channels? start = some []) :
      CallChange start controller
        (controller.setCall start (.returned (.error .superseded)))
  | fails {attempt : Attempt} {failure : StartFailure}
      (runs : controller.Runs start attempt)
      (owned : controller.owns attempt = true)
      (final : failure.isSuperseded = false)
      (empty : controller.channels? start = some [])
      (reported : controller.reported? start = some true)
      (shown : controller.tracker.ShowsFailure failure.failureLine) :
      CallChange start controller
        ((controller.announce start (.startFailed attempt.workspaceId
            failure.phase failure.shown)).setCall start
          (.returned (.error failure)))
  | succeeds {attempt : Attempt} (url : String)
      (runs : controller.Runs start attempt)
      (owned : controller.owns attempt = true)
      (empty : controller.channels? start = some []) :
      CallChange start controller
        (((controller.announce start (.agentConnected attempt.workspaceId
            url)).announce start (.startSucceeded attempt.workspaceId)).setCall
          start (.returned (.ok ())))

variable {controller next : Controller} {start : Nat} {entry : Start}

theorem call?_of_found (found : controller.starts[start]? = some entry) :
    controller.call? start = some entry.call := by
  simp [call?, found]

theorem channels?_of_found (found : controller.starts[start]? = some entry) :
    controller.channels? start = some entry.attempt.channels := by
  simp [channels?, found]

theorem teardown_eq (found : controller.starts[start]? = some entry) :
    controller.teardown start =
      controller.putAttempt start (entry.attempt.teardown controller.bus) := by
  simp [teardown, found, putAttempt]

theorem invalidate_eq (found : controller.starts[start]? = some entry) :
    controller.invalidate start =
      controller.putAttempt start
        (entry.attempt.invalidate controller.bus) := by
  simp [invalidate, found, putAttempt]

theorem subscribeChannels?_eq_some_iff {attempt : Attempt} {links : List Link} :
    controller.subscribeChannels? start attempt links = some next ↔
      controller.isCurrent attempt = true ∧
        next = controller.putAttempt start
          (attempt.subscribeEach controller.bus
            (advertised start attempt.workspaceId links)) := by
  unfold subscribeChannels?
  split
  · next current => simp [current, putAttempt, eq_comm]
  · next stale => simp [stale]

theorem getElem?_changeStart (controller : Controller) (start other : Nat)
    (change : Start → Start) :
    (controller.changeStart start change).starts[other]? =
      if start = other then controller.starts[other]?.map change
      else controller.starts[other]? := by
  rw [changeStart, List.getElem?_modify]
  split <;> simp

/-- What every act leaves as it is.  The rest of the state may change only in
the record of the start itself, in the progress, the bus, and the journal. -/
structure Within (start : Nat) (before after : Controller) : Prop where
  config : after.config = before.config
  generation : after.generation = before.generation
  stamp : after.stamp = before.stamp
  active : after.active = before.active
  clock : after.clock = before.clock
  length : after.starts.length = before.starts.length
  others : ∀ {other}, other ≠ start →
    after.starts[other]? = before.starts[other]?
  own : ∀ {entry}, before.starts[start]? = some entry →
    ∃ changed, after.starts[start]? = some changed ∧
      changed.attempt.bare = entry.attempt.bare ∧
      changed.environment = entry.environment
  journal : ∃ added, after.journal = added ++ before.journal ∧
    ∀ item ∈ added, item.start = start

namespace Within

variable {middle : Controller}

theorem refl (start : Nat) (controller : Controller) :
    Within start controller controller where
  config := rfl
  generation := rfl
  stamp := rfl
  active := rfl
  clock := rfl
  length := rfl
  others := fun _ => rfl
  own := fun found => ⟨_, found, rfl, rfl⟩
  journal := ⟨[], rfl, by simp⟩

theorem trans (first : Within start controller middle)
    (second : Within start middle next) : Within start controller next where
  config := second.config.trans first.config
  generation := second.generation.trans first.generation
  stamp := second.stamp.trans first.stamp
  active := second.active.trans first.active
  clock := second.clock.trans first.clock
  length := second.length.trans first.length
  others := fun different =>
    (second.others different).trans (first.others different)
  own := by
    intro entry found
    obtain ⟨between, foundBetween, sameAttempt, sameEnvironment⟩ :=
      first.own found
    obtain ⟨changed, foundChanged, nextAttempt, nextEnvironment⟩ :=
      second.own foundBetween
    exact ⟨changed, foundChanged, nextAttempt.trans sameAttempt,
      nextEnvironment.trans sameEnvironment⟩
  journal := by
    obtain ⟨earlier, firstJournal, firstOwn⟩ := first.journal
    obtain ⟨later, secondJournal, secondOwn⟩ := second.journal
    refine ⟨later ++ earlier, ?_, ?_⟩
    · rw [secondJournal, firstJournal, List.append_assoc]
    · intro item member
      rcases List.mem_append.mp member with isLater | isEarlier
      · exact secondOwn item isLater
      · exact firstOwn item isEarlier

theorem enter (deed : Deed) :
    Within start controller (controller.enter start deed) :=
  { refl start controller with
    journal := ⟨[⟨start, controller.clock, deed⟩], rfl, by simp⟩ }

theorem tracker (tracker : Tracker) :
    Within start controller { controller with tracker := tracker } :=
  { refl start controller with }

theorem bus (bus : Bus Handler) :
    Within start controller { controller with bus := bus } :=
  { refl start controller with }

theorem changeStart (change : Start → Start)
    (keepsAttempt : ∀ entry, controller.starts[start]? = some entry →
      (change entry).attempt.bare = entry.attempt.bare)
    (keepsEnvironment : ∀ entry,
      (change entry).environment = entry.environment) :
    Within start controller (controller.changeStart start change) :=
  { refl start controller with
    length := List.length_modify ..
    others := fun different => by
      rw [getElem?_changeStart, if_neg (Ne.symm different)]
    own := fun {entry} found => by
      refine ⟨change entry, ?_, keepsAttempt entry found, keepsEnvironment entry⟩
      simp [getElem?_changeStart, found] }

theorem setCall (call : Call) :
    Within start controller (controller.setCall start call) :=
  changeStart _ (fun _ _ => rfl) fun _ => rfl

theorem putAttempt {state : Attempt × Bus Handler}
    (found : controller.starts[start]? = some entry)
    (keeps : state.1.bare = entry.attempt.bare) :
    Within start controller (controller.putAttempt start state) := by
  refine (changeStart (fun entry => { entry with attempt := state.1 }) ?_
    fun _ => rfl).trans (bus state.2)
  intro other otherFound
  rw [found] at otherFound
  cases otherFound
  exact keeps

/-- Every start was there before, with the same attempt but for its channels. -/
theorem source (within : Within start controller next) {other : Nat}
    {changed : Start} (found : next.starts[other]? = some changed) :
    ∃ entry, controller.starts[other]? = some entry ∧
      changed.attempt.bare = entry.attempt.bare := by
  by_cases same : other = start
  · subst same
    obtain ⟨inRange, -⟩ := List.getElem?_eq_some_iff.mp found
    rw [within.length] at inRange
    have before := List.getElem?_eq_getElem inRange
    obtain ⟨after, foundAfter, sameAttempt, -⟩ := within.own before
    rw [found] at foundAfter
    cases foundAfter
    exact ⟨_, before, sameAttempt⟩
  · exact ⟨changed, (within.others same).symm.trans found, rfl⟩

theorem runs (within : Within start controller next) {attempt : Attempt}
    (runs : controller.Runs start attempt) : next.Runs start attempt := by
  obtain ⟨entry, found, same⟩ := runs
  obtain ⟨changed, foundChanged, sameAttempt, -⟩ := within.own found
  exact ⟨changed, foundChanged, sameAttempt.trans same⟩

theorem owns_eq (within : Within start controller next) (attempt : Attempt) :
    next.owns attempt = controller.owns attempt := by
  simp [owns, within.stamp]

theorem isCurrent_eq (within : Within start controller next)
    (attempt : Attempt) :
    next.isCurrent attempt = controller.isCurrent attempt := by
  simp [isCurrent, within.generation]

end Within

theorem Shows.within (shows : Shows start controller next) :
    Within start controller next := by
  cases shows with
  | advanced | logged | relogged | marked =>
      exact (Within.tracker _).trans (.enter _)
  | reported =>
      exact (Within.changeStart (fun entry => { entry with reported := true })
        (fun _ _ => rfl) fun _ => rfl).trans (.enter _)

theorem Act.within (act : Act start controller next) :
    Within start controller next := by
  cases act with
  | shown shows => exact shows.within
  | noted => exact .enter _
  | tried => exact (Within.enter _).trans (.enter _)
  | tornDown found =>
      rw [teardown_eq found]
      exact .putAttempt found rfl
  | subscribed found _ accepted =>
      obtain ⟨-, rfl⟩ := subscribeChannels?_eq_some_iff.mp accepted
      exact .putAttempt found (Attempt.bare_subscribeEach ..)

theorem CallChange.within (change : CallChange start controller next) :
    Within start controller next := by
  cases change with
  | waits | leaves | yields => exact .setCall _
  | fails => exact (Within.enter _).trans (.setCall _)
  | succeeds =>
      exact ((Within.enter _).trans (.enter _)).trans (.setCall _)

end Controller

end WorkspaceStartup
