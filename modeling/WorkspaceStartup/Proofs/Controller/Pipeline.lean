import WorkspaceStartup.Proofs.Controller.Aftermath
import WorkspaceStartup.Proofs.Controller.Standing

/-!
# The first failure decides

A start that is neither superseded nor dropped ends as its answers decide, after
a bounded number of turns.  If the service rejects it, nothing has been
subscribed on its behalf, and the first step shows that it was rejected.
-/

namespace WorkspaceStartup

namespace Controller

variable {config : Config} {controller next : Controller} {start : Nat}
  {attempt : Attempt} {move : Move} {cause : ControlFailure}
  {result : Except StartFailure Unit}

/-- No message can reach the start, and when its call has returned, the first
step shows that it was rejected. -/
structure Rejected (controller : Controller) (start : Nat) : Prop where
  unheard : ∀ handler, controller.bus.Knows handler → handler.start ≠ start
  told : controller.Unanswered start ∨
    (∃ result, controller.call? start = some (.returned result)) ∧
      (controller.tracker.step? Tracker.runtimeStep).map (·.logs) =
        some rejectedLine

theorem bus_fail (failure : StartFailure) :
    (controller.fail start attempt failure).bus =
      (controller.teardown start).bus := by
  have torn : (controller.course.teardown start).bus =
      (controller.teardown start).bus := by
    rw [← course_teardown]
    rfl
  refine (congrArg Controller.bus (course_fail failure)).trans ?_
  split
  · exact torn
  · exact torn

theorem logs_flagAndReplace (fresh : controller.tracker = .startup)
    (id : WorkspaceId) (line : String) :
    ((controller.flagAndReplace start id line).tracker.step?
      Tracker.runtimeStep).map (·.logs) = some line := by
  simp only [flagAndReplace, markFailed, fresh]
  rfl

theorem logs_fail_rejected (fresh : controller.tracker = .startup)
    (owned : controller.owns attempt = true) (cause : ControlFailure) :
    ((controller.fail start attempt (.requestRejected cause)).tracker.step?
      Tracker.runtimeStep).map (·.logs) = some rejectedLine := by
  have stillFresh : (controller.teardown start).tracker = .startup :=
    (tracker_teardown start).trans fresh
  have stillOwned : (controller.teardown start).owns attempt = true := by
    rw [owns, stamp_teardown]
    exact owned
  have told (quiet : Controller) (event : Event) (call : Call) :
      ((quiet.announce start event).setCall start call).tracker =
        quiet.tracker :=
    rfl
  simp only [Controller.fail, stillOwned, StartFailure.isSuperseded,
    Bool.not_true, Bool.or_self, Bool.false_eq_true, if_false, told,
    tracker_report]
  exact logs_flagAndReplace stillFresh _ _

theorem Reachable.unheard_of_unanswered
    (reachable : Reachable config controller)
    (unanswered : controller.Unanswered start) :
    ∀ handler, controller.bus.Knows handler → handler.start ≠ start := by
  rintro handler known rfl
  exact reachable.answered_of_knows known unanswered

theorem Reachable.rejected_fail (reachable : Reachable config controller)
    {entry : Start} (latest : start + 1 = controller.starts.length)
    (found : controller.starts[start]? = some entry)
    (unanswered : controller.Unanswered start) (cause : ControlFailure) :
    (controller.fail start entry.attempt (.requestRejected cause)).Rejected
      start where
  unheard := by
    intro handler known
    rw [bus_fail, teardown_eq found] at known
    exact reachable.unheard_of_unanswered unanswered handler
      known.of_foldl_unsubscribe
  told := by
    have owned := (reachable.sound.numbered.owns_iff ⟨entry, found, rfl⟩).mpr
      latest
    have stands : controller.Stands start (.pending .starting)
        (controller.requestsOf start) :=
      ⟨unanswered, rfl⟩
    exact .inr ⟨⟨_, (stands.fail owned rfl).call⟩,
      logs_fail_rejected (reachable.tracker_of_unanswered latest unanswered)
        owned cause⟩

/-- Only a message can still concern a start whose call is over. -/
theorem exists_knows_of_returned
    (returned : controller.call? start = some (.returned result))
    (actor : move.actor? controller = some start)
    (taken : controller.step? move = some next) :
    ∃ handler, controller.bus.Knows handler ∧ handler.start = start := by
  have idle : controller.pending? start = none := by
    cases waits : controller.pending? start with
    | none => rfl
    | some waiting =>
        obtain ⟨entry, found, -, call⟩ := pending?_eq_some_iff.mp waits
        rw [call?_of_found found, call] at returned
        cases returned
  cases move with
  | begin | tick => cases actor
  | publish channel =>
      obtain ⟨handler, served, own⟩ := Option.map_eq_some_iff.mp actor
      exact ⟨handler, .inr ⟨channel, served⟩, own⟩
  | fire =>
      obtain ⟨handler, subscribed, own⟩ := Option.map_eq_some_iff.mp actor
      exact ⟨handler, .inl (List.mem_of_getElem? subscribed), own⟩
  | drop | started | watched | fetched | linked | woken | withdrawn =>
      cases actor
      simp [step?, idle] at taken

/-- A rejected start stays as it is until another one begins. -/
theorem Rejected.of_returned (rejected : controller.Rejected start)
    (reachable : Reachable config controller)
    (latest : start + 1 = controller.starts.length)
    (continues : move.isBeginning = false)
    (taken : controller.step? move = some next)
    (returned : controller.call? start = some (.returned result)) :
    next.Rejected start := by
  have follows := reachable.follows taken
  have log := rejected.told.resolve_left fun unanswered => by
    rw [Unanswered, returned] at unanswered
    cases unanswered
  have ended (stage : Stage) : Call.returned result ≠ .pending stage := by
    intro equality
    cases equality
  have stays := follows.call?_of_ended returned ended
  cases actor : move.actor? controller with
  | none =>
      obtain ⟨clock, rfl⟩ := follows.eq_of_actor?_eq_none continues actor
      exact ⟨rejected.unheard, .inr ⟨⟨result, returned⟩, log.2⟩⟩
  | some other =>
      have different : other ≠ start := by
        rintro rfl
        obtain ⟨handler, known, own⟩ :=
          exists_knows_of_returned returned actor taken
        exact rejected.unheard handler known own
      have silent := reachable.silent_of_earlier actor taken (by omega)
      constructor
      · rw [silent.bus]
        exact rejected.unheard
      · rw [silent.tracker]
        exact .inr ⟨⟨result, stays⟩, log.2⟩

end Controller

namespace Startup

open Controller

variable {startup : Startup} {controller next : Controller} {start : Nat}
  {moves : List Move} {move : Move} {cause : ControlFailure}

theorem Standing.rejected_step
    (standing : startup.Standing start moves controller)
    (refused : startup.started = .error cause)
    (rejected : controller.Rejected start)
    (foresees : startup.Foresees start (moves ++ [move]))
    (taken : controller.stepIn? startup.orders move = some next) :
    next.Rejected start := by
  have ⟨reachable, latest, _⟩ := standing.attends
  have suits := foresees.last
  rcases rejected.told with unanswered | ⟨⟨result, returned⟩, -⟩
  · by_cases isTurn : move.turn? = some start
    · obtain ⟨entry, found, pending⟩ := pending?_of_call? unanswered
      cases move with
      | begin | drop | publish | fire | tick => cases isTurn
      | started =>
          cases isTurn
          cases suits rfl
          simp only [stepIn?, step?, pending, refused] at taken
          cases taken
          exact reachable.rejected_fail latest found unanswered cause
      | watched | fetched | linked | woken =>
          cases isTurn
          simp [stepIn?_eq, Move.arranged, step?, pending] at taken
      | withdrawn =>
          cases isTurn
          obtain ⟨_, _, foundEntry, _, -, cancelled, -⟩ := of_withdrawn taken
          have late := (reachable.sound.numbered.attempt foundEntry).2.mp
            cancelled
          omega
    · have kept : move ≠ .drop start := by
        rintro rfl
        exact suits rfl
      have stands : controller.Stands start (.pending .starting)
          (controller.requestsOf start) :=
        ⟨unanswered, rfl⟩
      have still : next.Unanswered start :=
        (stands.stays reachable taken suits.continues kept isTurn).call
      have after := (standing.step foresees taken).attends.reachable
      exact ⟨after.unheard_of_unanswered still, .inl still⟩
  · rw [stepIn?_eq] at taken
    refine rejected.of_returned reachable latest ?_ taken returned
    rw [Move.isBeginning_arranged]
    exact suits.continues

/-! ## The decision -/

theorem requestsOf_prefix (reachable : Reachable startup.config controller)
    (ran : controller.runIn? startup.orders moves = some next) :
    controller.requestsOf start <+: next.requestsOf start := by
  rw [runIn?_eq] at ran
  refine reachable.run_induction
    (fun later => controller.requestsOf start <+: later.requestsOf start) ?_
    ran (List.prefix_refl _)
  intro between after move _ follows earlier
  obtain ⟨added, journal⟩ := follows.exists_journal
  refine earlier.trans ?_
  rw [requestsOf, requestsOf, journal, Entry.select_append,
    List.reverse_append]
  exact List.prefix_append ..

/-- Whatever else happens, and in whichever order the servers of the details are
read, a start that is neither superseded nor dropped ends with the result to which
its answers lead, the only one, and it asks for just what they lead to, in order
and no more often.  It takes a bounded number of turns and can always come to its
end.  If the service rejects it, nothing is ever subscribed on its behalf, and in
the end the whole log of the first step is the line that says so. -/
theorem first_failure_decides {origin : Controller}
    (reachable : Reachable startup.config origin)
    (ran : (origin.begin startup.workspace.id
      startup.workspace.config.defaultEnvironment).runIn? startup.orders moves =
        some controller)
    (foresees : startup.Foresees origin.starts.length moves) :
    ∃ result requests, startup.Leads result requests ∧
      (∀ other others, startup.Leads other others →
        other = result ∧ others = requests) ∧
      controller.requestsOf origin.starts.length <+: requests ∧
      (∀ ended,
        controller.call? origin.starts.length = some (.returned ended) →
          ended = result ∧
            controller.requestsOf origin.starts.length = requests) ∧
      turns origin.starts.length moves ≤ 2 * startup.budget + 2 ∧
      (∃ rest last, controller.runIn? startup.orders rest = some last ∧
        startup.Foresees origin.starts.length (moves ++ rest) ∧
        last.call? origin.starts.length = some (.returned result)) ∧
      ∀ cause, startup.started = .error cause →
        controller.subscriptions origin.starts.length = [] ∧
        ∀ ended,
          controller.call? origin.starts.length = some (.returned ended) →
            (controller.tracker.step? Tracker.runtimeStep).map (·.logs) =
              some rejectedLine := by
  have begun := startup.standing_begin reachable
  obtain ⟨standing, -⟩ := begun.run_induction (fun _ => True)
    (fun _ _ _ _ => trivial) foresees ran trivial
  obtain ⟨rest, last, result, ranRest, standingLast, returned⟩ :=
    standing.exists_end
  have leads := standingLast.leads returned
  have isPrefix : controller.requestsOf origin.starts.length <+:
      last.requestsOf origin.starts.length :=
    requestsOf_prefix standing.attends.reachable ranRest
  refine ⟨result, last.requestsOf origin.starts.length, leads,
    fun other others => leads.unique, isPrefix, ?_, ?_,
    ⟨rest, last, ranRest, standingLast.foresees, returned⟩, ?_⟩
  · intro ended isEnded
    exact leads.unique (standing.leads isEnded)
  · obtain ⟨call, requests, comes, -⟩ := standing.stands
    exact comes.bounded
  · intro cause refused
    have unanswered := unanswered_begin origin startup.workspace.id
      startup.workspace.config.defaultEnvironment
    obtain ⟨-, rejected⟩ := begun.run_induction
      (fun later => later.Rejected origin.starts.length)
      (fun standing foresees taken rejected =>
        standing.rejected_step refused rejected foresees taken)
      foresees ran
      ⟨begun.attends.reachable.unheard_of_unanswered unanswered,
        .inl unanswered⟩
    constructor
    · rw [subscriptions, List.filter_eq_nil_iff]
      intro handler member
      simpa using rejected.unheard handler (.inl member)
    · intro ended isEnded
      have log := rejected.told.resolve_left fun waits => by
        rw [Unanswered, isEnded] at waits
        cases waits
      exact log.2

/-- A workspace that reaches its error status, for which there are no words. -/
def withoutWords : Startup where
  workspace := ⟨⟨"w"⟩, .stopped, ⟨"", "default"⟩, [], none⟩
  config := ⟨1, 0, .agentServer⟩
  orders := Machine.Enumeration.reversed
  started := .ok ⟨⟨"w"⟩, []⟩
  watched := .ok ⟨⟨"w"⟩, .error, some ""⟩
  fetched := .error .cancelled
  tries := fun _ => .ok ()

theorem first_failure_decides_without_words :
    ∃ controller,
      ((Controller.new ⟨1, 0, .agentServer⟩).begin ⟨"w"⟩ "default").runIn?
          Machine.Enumeration.reversed
          [.started 0 withoutWords.started, .watched 0 withoutWords.watched] =
        some controller ∧
      controller.call? 0 =
        some (.returned (.error (.remote "workspace failed to start"))) ∧
      controller.requestsOf 0 =
        [.askedStart ⟨"w"⟩ "default", .askedStatus ⟨"w"⟩ .running,
          .askedStatus ⟨"w"⟩ .error] := by
  have foreseen : withoutWords.Foresees 0
      [.started 0 withoutWords.started, .watched 0 withoutWords.watched] := by
    constructor
    · simp [Suits]
    · have untried : outcomes 0 [.started 0 withoutWords.started,
          .watched 0 withoutWords.watched] = [] :=
        rfl
      simp [untried]
  have reachable : Reachable withoutWords.config (.new ⟨1, 0, .agentServer⟩) :=
    .new
  have ran : ((Controller.new ⟨1, 0, .agentServer⟩).begin ⟨"w"⟩ "default").runIn?
      withoutWords.orders
      [.started 0 withoutWords.started, .watched 0 withoutWords.watched] =
    some _ := rfl
  obtain ⟨result, requests, -, unique, -, ended, -⟩ :=
    first_failure_decides reachable ran foreseen
  obtain ⟨rfl, rfl⟩ := unique _ _ (.unexplained rfl rfl rfl (.inr rfl))
  exact ⟨_, ran, rfl, (ended _ rfl).2⟩

end Startup

end WorkspaceStartup
