import WorkspaceStartup.Proofs.Controller.Return
import WorkspaceStartup.Proofs.Journal

/-!
# Errors are reported once

Messages and the end of a call compete for the one report of a start.  The
journal tells of every start what its record says (`Accounted`): a report was
made if and only if the flag of the start is set, and the start has announced a
failure if and only if its call has returned one of its own.
-/

namespace WorkspaceStartup

/-- What the start has announced of its failure, by the state of its call. -/
def Start.failures (start : Start) : List Event :=
  match start.call with
  | .returned (.error failure) =>
      if failure.isSuperseded then []
      else [.startFailed start.attempt.workspaceId failure.phase failure.shown]
  | _ => []

/-- The journal tells of a start what its record says. -/
structure Start.Told (entry : Start) (start : Nat) (journal : List Entry) :
    Prop where
  reports : (Entry.select Deed.report? start journal).length =
    entry.reported.toNat
  failures : Entry.select Deed.failure? start journal = entry.failures

theorem Start.Told.append {entry : Start} {start : Nat}
    {added journal : List Entry} (told : entry.Told start journal)
    (plain : ∀ item ∈ added, item.deed.Plain) :
    entry.Told start (added ++ journal) where
  reports := by
    rw [Entry.select_append_of_none fun item member => (plain item member).1]
    exact told.reports
  failures := by
    rw [Entry.select_append_of_none fun item member => (plain item member).2]
    exact told.failures

theorem Start.Told.cons_of_other {entry : Start} {start : Nat} {item : Entry}
    {journal : List Entry} (told : entry.Told start journal)
    (other : item.start ≠ start) : entry.Told start (item :: journal) where
  reports := by
    rw [Entry.select_cons_of_other other]
    exact told.reports
  failures := by
    rw [Entry.select_cons_of_other other]
    exact told.failures

theorem Deed.Quiet.plain {deed : Deed} (quiet : deed.Quiet) : deed.Plain := by
  refine ⟨quiet.2.1, ?_⟩
  cases deed with
  | announced event => cases quiet.1
  | reported | askedStart | askedStatus | askedDetails | opened | connected
  | closed => rfl

namespace Controller

variable {config : Config} {controller next : Controller} {start : Nat}
  {attempt : Attempt} {moves : List Move} {move : Move}

/-- A beginning makes no report, and announces no failure. -/
theorem exists_journal_begin (controller : Controller) (id : WorkspaceId)
    (environment : String) :
    ∃ added, (controller.begin id environment).journal =
        added ++ controller.journal ∧
      ∀ item ∈ added, item.deed.Plain := by
  rw [journal_begin]
  refine ⟨_ :: _ :: _ :: controller.supersession?.toList, rfl, ?_⟩
  simp only [List.forall_mem_cons]
  refine ⟨⟨rfl, rfl⟩, ⟨rfl, rfl⟩, ⟨rfl, rfl⟩, ?_⟩
  intro item announced
  obtain ⟨start, entry, -, rfl⟩ := eq_of_mem_supersession? announced
  exact ⟨rfl, rfl⟩

/-- The journal tells of every start what its record says. -/
structure Accounted (controller : Controller) : Prop where
  known : ∀ item ∈ controller.journal, item.start < controller.starts.length
  told : ∀ {start : Nat} {entry : Start},
    controller.starts[start]? = some entry → entry.Told start controller.journal

namespace Accounted

theorem new (config : Config) : (Controller.new config).Accounted where
  known := by simp [Controller.new]
  told := by simp [Controller.new]

theorem begin (accounted : controller.Accounted) (id : WorkspaceId)
    (environment : String) : (controller.begin id environment).Accounted where
  known := by
    intro item member
    rw [journal_begin] at member
    rw [length_starts_begin]
    simp only [List.mem_cons, List.mem_append] at member
    rcases member with rfl | rfl | rfl | announced | earlier
    · exact Nat.lt_succ_self _
    · exact Nat.lt_succ_self _
    · exact Nat.lt_succ_self _
    · obtain ⟨start, entry, found, rfl⟩ := eq_of_mem_supersession? announced
      exact Nat.lt_succ_of_lt (lt_length_of_found found)
    · exact Nat.lt_succ_of_lt (accounted.known item earlier)
  told := by
    intro start entry found
    obtain ⟨added, journal, plain⟩ :=
      exists_journal_begin controller id environment
    rw [journal]
    refine Start.Told.append ?_ plain
    rcases cases_of_begin _ found with
      ⟨rfl, rfl⟩ | ⟨before, foundBefore, rfl | rfl⟩
    · have others : ∀ item ∈ controller.journal,
          item.start ≠ controller.starts.length :=
        fun item member => Nat.ne_of_lt (accounted.known item member)
      constructor
      · rw [Entry.select_eq_nil others]
        rfl
      · exact Entry.select_eq_nil others
    · exact accounted.told foundBefore
    · obtain ⟨reports, failures⟩ := accounted.told foundBefore
      exact ⟨reports, failures⟩

theorem enter (accounted : controller.Accounted)
    (inRange : start < controller.starts.length) {deed : Deed}
    (plain : deed.Plain) : (controller.enter start deed).Accounted where
  known := by
    intro item member
    rcases List.mem_cons.mp member with rfl | earlier
    · exact inRange
    · exact accounted.known item earlier
  told := by
    intro other entry found
    exact Start.Told.append (accounted.told found)
      (List.forall_mem_singleton.mpr plain)

theorem tracker (accounted : controller.Accounted) (tracker : Tracker) :
    Accounted { controller with tracker := tracker } :=
  ⟨accounted.known, accounted.told⟩

theorem bus (accounted : controller.Accounted) (bus : Bus Handler) :
    Accounted { controller with bus := bus } :=
  ⟨accounted.known, accounted.told⟩

/-- A start changes in what its reports and failures do not depend on. -/
theorem changeStart {change : Start → Start} (accounted : controller.Accounted)
    (keeps : ∀ entry, controller.starts[start]? = some entry →
      (change entry).reported = entry.reported ∧
        (change entry).failures = entry.failures) :
    (controller.changeStart start change).Accounted where
  known := by
    rw [Controller.changeStart, List.length_modify]
    exact accounted.known
  told := by
    intro other entry found
    rw [getElem?_changeStart] at found
    split at found
    · next same =>
        subst same
        obtain ⟨before, foundBefore, rfl⟩ := Option.map_eq_some_iff.mp found
        obtain ⟨sameReported, sameFailures⟩ := keeps before foundBefore
        obtain ⟨reports, failures⟩ := accounted.told foundBefore
        exact ⟨reports.trans (congrArg Bool.toNat sameReported.symm),
          failures.trans sameFailures.symm⟩
    · exact accounted.told found

theorem putAttempt {state : Attempt × Bus Handler} {entry : Start}
    (accounted : controller.Accounted)
    (found : controller.starts[start]? = some entry)
    (keeps : state.1.bare = entry.attempt.bare) :
    (controller.putAttempt start state).Accounted := by
  refine (accounted.changeStart ?_).bus state.2
  intro other otherFound
  rw [found] at otherFound
  cases otherFound
  have sameId : state.1.workspaceId = entry.attempt.workspaceId :=
    congrArg (·.workspaceId) keeps
  exact ⟨rfl, by simp only [Start.failures, sameId]⟩

/-- A start changes together with an entry of its own. -/
theorem enterChanged {change : Start → Start} {deed : Deed}
    (accounted : controller.Accounted)
    (inRange : start < controller.starts.length)
    (told : ∀ entry, controller.starts[start]? = some entry →
      (change entry).Told start
        (⟨start, controller.clock, deed⟩ :: controller.journal)) :
    ((controller.changeStart start change).enter start deed).Accounted where
  known := by
    intro item member
    rw [Controller.enter, Controller.changeStart, List.length_modify]
    rcases List.mem_cons.mp member with rfl | earlier
    · exact inRange
    · exact accounted.known item earlier
  told := by
    intro other entry found
    change (controller.changeStart start change).starts[other]? = _ at found
    rw [getElem?_changeStart] at found
    split at found
    · next same =>
        subst same
        obtain ⟨before, foundBefore, rfl⟩ := Option.map_eq_some_iff.mp found
        exact told before foundBefore
    · next different => exact (accounted.told found).cons_of_other different

theorem act (accounted : controller.Accounted)
    (act : Act start controller next) : next.Accounted := by
  cases act with
  | shown shows =>
      cases shows with
      | advanced runs | logged runs | relogged runs | marked runs =>
          refine enter (accounted.tracker _) ?_ ?_
          · exact runs.lt_length
          · exact ⟨rfl, rfl⟩
      | reported report found _ first =>
          refine accounted.enterChanged (lt_length_of_found found) ?_
          intro entry foundEntry
          rw [found] at foundEntry
          cases foundEntry
          obtain ⟨reports, failures⟩ := accounted.told found
          rw [first] at reports
          constructor
          · rw [Entry.select_cons, if_pos rfl]
            simpa [Deed.report?] using reports
          · rw [Entry.select_cons_of_none rfl]
            exact failures
  | noted deed runs quiet =>
      exact accounted.enter runs.lt_length quiet.plain
  | tried run runs =>
      exact (accounted.enter runs.lt_length ⟨rfl, rfl⟩).enter runs.lt_length
        ⟨rfl, rfl⟩
  | tornDown found =>
      rw [teardown_eq found]
      exact accounted.putAttempt found rfl
  | subscribed found _ accepted =>
      obtain ⟨-, rfl⟩ := subscribeChannels?_eq_some_iff.mp accepted
      exact accounted.putAttempt found (Attempt.bare_subscribeEach ..)

/-- A pending call changes without the announcement of a failure. -/
theorem setCall {call : Call} {stage : Stage} (accounted : controller.Accounted)
    (pending : controller.call? start = some (.pending stage))
    (silent : ∀ entry : Start,
      Start.failures { entry with call := call } = []) :
    (controller.setCall start call).Accounted := by
  refine accounted.changeStart fun entry found => ⟨rfl, ?_⟩
  obtain ⟨waiting, foundWaiting, waits⟩ := Option.map_eq_some_iff.mp pending
  rw [found] at foundWaiting
  cases foundWaiting
  exact (silent entry).trans (by rw [Start.failures, waits])

theorem change {stage : Stage} (accounted : controller.Accounted)
    (pending : controller.call? start = some (.pending stage))
    (change : CallChange start controller next) : next.Accounted := by
  cases change with
  | waits | leaves | yields => exact accounted.setCall pending fun _ => rfl
  | @fails attempt failure runs owned final =>
      refine accounted.enterChanged runs.lt_length ?_
      intro entry found
      have same : entry.attempt.workspaceId = attempt.workspaceId := by
        obtain ⟨running, foundRunning, sameBare⟩ := runs
        rw [found] at foundRunning
        cases foundRunning
        exact congrArg (·.workspaceId) sameBare
      have silent : entry.failures = [] := by
        simp only [call?, found, Option.map_some, Option.some.injEq] at pending
        rw [Start.failures, pending]
      obtain ⟨reports, failures⟩ := accounted.told found
      constructor
      · rw [Entry.select_cons_of_none rfl]
        exact reports
      · rw [Entry.select_cons, if_pos rfl, failures, silent]
        simp [Deed.failure?, Start.failures, final, same]
  | succeeds url runs =>
      exact ((accounted.enter runs.lt_length ⟨rfl, rfl⟩).enter runs.lt_length
        ⟨rfl, rfl⟩).setCall pending fun _ => rfl

end Accounted

theorem Reachable.accounted (reachable : Reachable config controller) :
    controller.Accounted := by
  refine reachable.invariant Accounted (.new config) ?_ ?_ ?_ ?_
  · intro controller id environment _ accounted
    exact accounted.begin id environment
  · intro controller milliseconds accounted
    exact ⟨accounted.known, accounted.told⟩
  · intro start controller next _ act accounted
    exact accounted.act act
  · intro start stage controller next _ pending change accounted
    exact accounted.change pending change

theorem Accounted.length_reports_le (accounted : controller.Accounted)
    (start : Nat) :
    (Entry.select Deed.report? start controller.journal).length ≤ 1 := by
  cases found : controller.starts[start]? with
  | none =>
      have beyond := List.getElem?_eq_none_iff.mp found
      rw [Entry.select_eq_nil fun item member => by
        have inRange := accounted.known item member
        omega]
      exact Nat.zero_le 1
  | some entry =>
      rw [(accounted.told found).reports]
      exact Bool.toNat_le entry.reported

/-- What holds when the call of a start returns a failure of its own. -/
theorem Follows.failing {stage : Stage} {failure : StartFailure}
    (follows : controller.Follows move next) (accounted : next.Accounted)
    (pending : controller.call? start = some (.pending stage))
    (returned : next.call? start = some (.returned (.error failure)))
    (final : failure ≠ .superseded) :
    ∃ entry, next.starts[start]? = some entry ∧
      entry.Told start next.journal ∧ entry.reported = true ∧
      entry.call = .returned (.error failure) ∧
      next.tracker.ShowsFailure failure.failureLine ∧
      entry.attempt.channels = [] := by
  obtain ⟨middle, -, change⟩ := follows.returning pending returned
  cases change with
  | waits => cases eq_of_call?_setCall returned
  | leaves => cases eq_of_call?_setCall returned
  | yields =>
      cases eq_of_call?_setCall returned
      exact (final rfl).elim
  | succeeds => cases eq_of_call?_setCall returned
  | @fails attempt _ _ _ _ empty reported shown =>
      cases eq_of_call?_setCall returned
      obtain ⟨entry, found, isReported⟩ := Option.map_eq_some_iff.mp reported
      rw [channels?_of_found found, Option.some.injEq] at empty
      have changed := congrArg
        (Option.map fun entry : Start =>
          { entry with call := .returned (.error failure) }) found
      have foundAfter := (getElem?_changeStart _ start start _).trans
        ((if_pos rfl).trans changed)
      exact ⟨_, foundAfter, accounted.told foundAfter, isReported, rfl, shown,
        empty⟩

/-- A workspace that fails to start after its channels were subscribed. -/
def failedStart (id : WorkspaceId) : List Move :=
  [.begin id "", .started 0 (.ok ⟨id, []⟩),
    .watched 0 (.ok ⟨id, .error, some "no memory"⟩)]

end Controller

end WorkspaceStartup
