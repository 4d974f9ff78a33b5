import WorkspaceStartup.Proofs.Controller.Unanswered

/-!
# Events tell the progress

Whoever replays the announced changes of steps on a new tracker gets the
progress that is shown.  Changes of the progress and their announcements go
together in every act.  The one exception is a rejected start, whose line
replaces the log and is announced like any other; nothing is shown of such a
start before, so the line would have stood alone anyway.
-/

namespace WorkspaceStartup

/-- The event announces a change of a step. -/
def Event.isStep : Event → Bool
  | .stepAdvanced _ _ | .stepLogged _ _ _ | .stepFailed _ _ => true
  | _ => false

namespace Tracker

/-- Makes the change that an event announces. -/
def follow (tracker : Tracker) : Event → Tracker
  | .stepAdvanced _ step => (tracker.advance step).getD tracker
  | .stepLogged _ step line => (tracker.append step line).getD tracker
  | .stepFailed _ step => (tracker.markFailed step).getD tracker
  | _ => tracker

/-- Makes the changes that events announce, in their order. -/
def replay (tracker : Tracker) (events : List Event) : Tracker :=
  events.foldl follow tracker

theorem follow_of_not_isStep {event : Event} (tracker : Tracker)
    (plain : event.isStep = false) : tracker.follow event = tracker := by
  cases event with
  | stepAdvanced | stepLogged | stepFailed => cases plain
  | recentUpdated | listRefresh | connectAttempted | agentConnected
  | startSucceeded | startFailed | superseded => rfl

theorem replay_append (tracker : Tracker) (earlier later : List Event) :
    tracker.replay (earlier ++ later) = (tracker.replay earlier).replay later :=
  List.foldl_append

theorem replay_of_not_isStep {events : List Event} (tracker : Tracker)
    (plain : ∀ event ∈ events, event.isStep = false) :
    tracker.replay events = tracker := by
  induction events with
  | nil => rfl
  | cons event others induction =>
      obtain ⟨first, rest⟩ := List.forall_mem_cons.mp plain
      rw [replay, List.foldl_cons, follow_of_not_isStep tracker first]
      exact induction rest

end Tracker

namespace Controller

variable {config : Config} {controller middle next : Controller} {start : Nat}
  {attempt : Attempt} {id : WorkspaceId} {moves : List Move} {move : Move}

/-- What was entered between two states tells how the progress has changed, and
tells it of one workspace. -/
def Recounts (id : WorkspaceId) (before after : Controller) : Prop :=
  ∃ added, after.journal = added ++ before.journal ∧
    after.tracker = before.tracker.replay (Entry.events added).reverse ∧
    ∀ event ∈ Entry.events added, event.isStep = true → event.workspaceId = id

namespace Recounts

theorem of_plain {added : List Entry}
    (journal : next.journal = added ++ controller.journal)
    (plain : ∀ event ∈ Entry.events added, event.isStep = false)
    (tracker : next.tracker = controller.tracker) :
    Recounts id controller next := by
  refine ⟨added, journal, ?_, ?_⟩
  · rw [tracker, Tracker.replay_of_not_isStep]
    intro event member
    exact plain event (List.mem_reverse.mp member)
  · intro event member isStep
    rw [plain event member] at isStep
    cases isStep

theorem of_same (journal : next.journal = controller.journal)
    (tracker : next.tracker = controller.tracker) :
    Recounts id controller next := by
  have nothing : ∀ event ∈ Entry.events [], event.isStep = false := nofun
  exact of_plain (journal.trans (List.nil_append _).symm) nothing tracker

theorem trans (first : Recounts id controller middle)
    (second : Recounts id middle next) : Recounts id controller next := by
  obtain ⟨earlier, firstJournal, firstTracker, firstOwn⟩ := first
  obtain ⟨later, secondJournal, secondTracker, secondOwn⟩ := second
  have events : Entry.events (later ++ earlier) =
      Entry.events later ++ Entry.events earlier := List.filterMap_append
  refine ⟨later ++ earlier, ?_, ?_, ?_⟩
  · rw [secondJournal, firstJournal, List.append_assoc]
  · rw [secondTracker, firstTracker, events, List.reverse_append,
      Tracker.replay_append]
  · intro event member
    rw [events] at member
    rcases List.mem_append.mp member with isLater | isEarlier
    · exact secondOwn event isLater
    · exact firstOwn event isEarlier

theorem enter (deed : Deed)
    (plain : ∀ event, deed.event? = some event → event.isStep = false) :
    Recounts id controller (controller.enter start deed) := by
  have journal : (controller.enter start deed).journal =
      [⟨start, controller.clock, deed⟩] ++ controller.journal := rfl
  refine of_plain journal ?_ rfl
  intro event member
  obtain ⟨item, isItem, isEvent⟩ := List.mem_filterMap.mp member
  cases List.mem_singleton.mp isItem
  exact plain event isEvent

theorem enter_of_none {deed : Deed} (nothing : deed.event? = none) :
    Recounts id controller (controller.enter start deed) := by
  refine enter deed fun event isEvent => ?_
  rw [nothing] at isEvent
  cases isEvent

theorem announce {event : Event} (plain : event.isStep = false) :
    Recounts id controller (controller.announce start event) := by
  refine enter (.announced event) ?_
  rintro _ ⟨⟩
  exact plain

/-- A change of the progress together with its announcement. -/
theorem told {event : Event} {tracker : Tracker}
    (followed : controller.tracker.follow event = tracker)
    (own : event.workspaceId = id) :
    Recounts id controller
      ({ controller with tracker := tracker }.announce start event) := by
  refine ⟨[⟨start, controller.clock, .announced event⟩], rfl, ?_, ?_⟩
  · exact followed.symm
  · intro other member _
    cases List.mem_singleton.mp member
    exact own

end Recounts

/-! ## What is shown -/

theorem recounts_putAttempt (state : Attempt × Bus Handler) :
    Recounts id controller (controller.putAttempt start state) :=
  .of_same rfl rfl

theorem recounts_setCall (call : Call) :
    Recounts id controller (controller.setCall start call) :=
  .of_same rfl rfl

theorem recounts_markFailed (step : Nat) :
    Recounts id controller (controller.markFailed start id step) := by
  unfold markFailed
  split
  · next mark => exact .told (by simp [Tracker.follow, mark]) rfl
  · exact .of_same rfl rfl

theorem recounts_logLine (step : Nat) (line : String) :
    Recounts id controller (controller.logLine start id step line) := by
  unfold logLine
  split
  · next added => exact .told (by simp [Tracker.follow, added]) rfl
  · exact .of_same rfl rfl

theorem recounts_flagCurrent (line : String) :
    Recounts id controller (controller.flagCurrent start id line) :=
  (recounts_markFailed _).trans (recounts_logLine _ line)

/-- While nothing is shown, replacing a log is like adding to it. -/
theorem flagAndReplace_eq (fresh : controller.tracker = .startup)
    (line : String) :
    controller.flagAndReplace start id line =
      controller.flagCurrent start id line := by
  have marked : Tracker.startup.markFailed Tracker.startup.current =
      some ⟨[⟨Tracker.startupSteps[0], "", true⟩,
        .blank Tracker.startupSteps[1], .blank Tracker.startupSteps[2]], 0⟩ :=
    rfl
  simp only [flagAndReplace, flagCurrent, markFailed, fresh, marked]
  rfl

theorem recounts_report (report : Report) :
    Recounts id controller (controller.report start report) := by
  unfold Controller.report
  split
  · exact .of_same rfl rfl
  · split
    · exact .of_same rfl rfl
    · exact Recounts.trans (.of_same rfl rfl) (.enter_of_none rfl)

theorem Shows.recounts (shows : Shows start controller next)
    (runs : controller.Runs start attempt)
    (answered : ¬ controller.Unanswered start) :
    Recounts attempt.workspaceId controller next := by
  cases shows with
  | advanced own _ moved =>
      exact .told (by simp [Tracker.follow, moved]) (runs.workspaceId_eq own)
  | logged own _ added =>
      exact .told (by simp [Tracker.follow, added]) (runs.workspaceId_eq own)
  | relogged _ _ _ unanswered => exact (answered unanswered).elim
  | marked own _ mark =>
      exact .told (by simp [Tracker.follow, mark]) (runs.workspaceId_eq own)
  | reported report =>
      exact Recounts.trans (.of_same rfl rfl) (.enter_of_none rfl)

theorem Act.recounts (act : Act start controller next)
    (runs : controller.Runs start attempt)
    (answered : ¬ controller.Unanswered start) :
    Recounts attempt.workspaceId controller next := by
  cases act with
  | shown shows => exact shows.recounts runs answered
  | noted deed _ quiet => exact .enter_of_none quiet.1
  | tried run => exact Recounts.trans (.announce rfl) (.enter_of_none rfl)
  | tornDown found =>
      rw [teardown_eq found]
      exact recounts_putAttempt _
  | subscribed _ _ accepted =>
      obtain ⟨-, rfl⟩ := subscribeChannels?_eq_some_iff.mp accepted
      exact recounts_putAttempt _

theorem recounts_of_acts (acts : Acts start controller next)
    (runs : controller.Runs start attempt)
    (answered : ¬ controller.Unanswered start) :
    Recounts attempt.workspaceId controller next := by
  induction acts with
  | refl => exact .of_same rfl rfl
  | tail earlier last induction =>
      have stillRuns := (within_of_acts earlier).runs runs
      have stays := call?_eq_of_acts earlier start
      refine induction.trans (last.recounts stillRuns ?_)
      intro unanswered
      exact answered (stays.symm.trans unanswered)

theorem CallChange.recounts (change : CallChange start controller next) :
    Recounts id controller next := by
  cases change with
  | waits | leaves | yields => exact recounts_setCall _
  | fails => exact Recounts.trans (.announce rfl) (recounts_setCall _)
  | succeeds =>
      exact (Recounts.trans (.announce rfl) (.announce rfl)).trans
        (recounts_setCall _)

/-! ## The answer to the request -/

variable {entry : Start}

theorem recounts_teardown (found : controller.starts[start]? = some entry) :
    Recounts id controller (controller.teardown start) := by
  rw [teardown_eq found]
  exact recounts_putAttempt _

theorem recounts_fail_superseded
    (found : controller.starts[start]? = some entry) :
    Recounts id controller (controller.fail start attempt .superseded) := by
  have torn : Recounts id controller (controller.teardown start) :=
    recounts_teardown found
  simp only [fail, StartFailure.isSuperseded, Bool.true_or, if_true]
  exact torn.trans (recounts_setCall _)

/-- A rejection is the first thing that is shown. -/
theorem recounts_fail_rejected
    (found : controller.starts[start]? = some entry)
    (fresh : controller.tracker = .startup) (cause : ControlFailure) :
    Recounts attempt.workspaceId controller
      (controller.fail start attempt (.requestRejected cause)) := by
  have torn : Recounts attempt.workspaceId controller
      (controller.teardown start) := recounts_teardown found
  have quietTracker : (controller.teardown start).tracker = .startup := by
    rw [teardown_eq found]
    exact fresh
  simp only [fail, flagFailure, flagAndReplace_eq quietTracker]
  split
  · exact torn.trans (recounts_setCall _)
  · refine Recounts.trans ?_ (recounts_setCall _)
    refine Recounts.trans ?_ (.announce rfl)
    exact (torn.trans (recounts_flagCurrent rejectedLine)).trans
      (recounts_report _)

theorem recounts_onStarted (found : controller.starts[start]? = some entry)
    (fresh : controller.tracker = .startup)
    (answer : Except ControlFailure StartResult) :
    Recounts entry.attempt.workspaceId controller
      (controller.onStarted start entry.attempt answer) := by
  cases answer with
  | error cause => exact recounts_fail_rejected found fresh cause
  | ok result =>
      simp only [onStarted]
      split
      · exact recounts_fail_superseded found
      · next accepted =>
          obtain ⟨-, rfl⟩ := subscribeChannels?_eq_some_iff.mp accepted
          refine Recounts.trans ?_ (recounts_setCall _)
          refine Recounts.trans ?_ (.enter_of_none rfl)
          refine Recounts.trans ?_ (.enter_of_none rfl)
          exact recounts_putAttempt _

/-! ## Moves -/

theorem Silent.recounts (silent : Silent controller next)
    (within : Within start controller next) : Recounts id controller next := by
  obtain ⟨added, journal, -⟩ := within.journal
  have nothing : Entry.events added = [] := by
    have same := silent.events
    rw [journal, Entry.events, List.filterMap_append] at same
    exact List.append_left_eq_self.mp same
  exact .of_plain journal (by simp [nothing]) silent.tracker

/-- A move without a beginning tells of the latest start what it shows. -/
theorem Reachable.recounts (reachable : Reachable config controller)
    (continues : move.isBeginning = false)
    (runs : controller.Runs start attempt)
    (latest : start + 1 = controller.starts.length)
    (taken : controller.step? move = some next) :
    Recounts attempt.workspaceId controller next := by
  have follows := reachable.follows taken
  cases actor : move.actor? controller with
  | none =>
      obtain ⟨clock, rfl⟩ := follows.eq_of_actor?_eq_none continues actor
      exact .of_same rfl rfl
  | some other =>
      by_cases same : other = start
      · subst same
        -- The log that a rejection replaces is empty: the request is answered
        -- before anything is shown.
        by_cases unanswered : controller.Unanswered other
        · have fresh := reachable.tracker_of_unanswered latest unanswered
          rcases reachable.answered_or_dropped latest unanswered actor taken
            with rfl | ⟨entry, answer, found, -, rfl⟩
          · exact .of_same rfl rfl
          · rw [← runs.workspaceId_eq ⟨entry, found, rfl⟩]
            exact recounts_onStarted found fresh answer
        · cases follows with
          | begun => cases continues
          | passed | unheard => exact .of_same rfl rfl
          | heard isActor shows =>
              cases actor.symm.trans isActor
              exact recounts_of_acts (acts_of_shows shows) runs unanswered
          | carried isActor _ carries =>
              cases actor.symm.trans isActor
              obtain ⟨middle, acts, change⟩ := carries
              exact (recounts_of_acts acts runs unanswered).trans
                change.recounts
      · exact (reachable.silent_of_earlier actor taken (by omega)).recounts
          (follows.within actor)

/-! ## Since the latest beginning -/

theorem Follows.runs (follows : controller.Follows move next)
    (continues : move.isBeginning = false)
    (runs : controller.Runs start attempt) : next.Runs start attempt := by
  cases actor : move.actor? controller with
  | none =>
      obtain ⟨clock, rfl⟩ := follows.eq_of_actor?_eq_none continues actor
      exact runs
  | some other =>
      have within := follows.within actor
      by_cases same : start = other
      · subst same
        exact within.runs runs
      · obtain ⟨entry, found, bare⟩ := runs
        exact ⟨entry, (within.others same).trans found, bare⟩

/-- A run without a beginning tells of the latest start what it shows. -/
theorem Reachable.recounts_run (reachable : Reachable config controller)
    (continues : ∀ move ∈ moves, move.isBeginning = false)
    (runs : controller.Runs start attempt)
    (latest : start + 1 = controller.starts.length)
    (ran : controller.run? moves = some next) :
    Recounts attempt.workspaceId controller next := by
  induction moves generalizing controller with
  | nil =>
      cases ran
      exact .of_same rfl rfl
  | cons move moves induction =>
      obtain ⟨between, taken, rest⟩ := Option.bind_eq_some_iff.mp ran
      obtain ⟨first, others⟩ := List.forall_mem_cons.mp continues
      have stillRuns := (reachable.follows taken).runs first runs
      have stillLatest : start + 1 = between.starts.length := by
        rw [reachable.length_starts_of_step? taken, latest]
        simp [beginnings, first]
      have later := induction (.step move reachable taken) others stillRuns
        stillLatest rest
      exact (reachable.recounts first runs latest taken).trans later

/-- The latest beginning on the way to a controller. -/
structure Latest (config : Config) (controller : Controller) where
  before : Controller
  id : WorkspaceId
  environment : String
  later : List Move
  reachable : Reachable config before
  continues : ∀ move ∈ later, move.isBeginning = false
  ran : (before.begin id environment).run? later = some controller

theorem Latest.exists_of_starts (reachable : Reachable config controller)
    (started : controller.starts ≠ []) :
    Nonempty (Latest config controller) := by
  induction reachable with
  | new => exact (started rfl).elim
  | @step controller next move before taken induction =>
      by_cases begins : move.isBeginning = true
      · cases move with
        | begin id environment =>
            exact ⟨⟨controller, id, environment, [], before, nofun, taken⟩⟩
        | drop | publish | fire | started | watched | fetched | linked | woken
        | withdrawn | tick => cases begins
      · rw [Bool.not_eq_true] at begins
        have length := before.length_starts_of_step? taken
        have startedBefore : controller.starts ≠ [] := by
          rintro none
          simp [none, beginnings, begins, started] at length
        obtain ⟨latest⟩ := induction startedBefore
        have continues : ∀ other ∈ latest.later ++ [move],
            other.isBeginning = false := by
          intro other member
          rcases List.mem_append.mp member with isEarlier | isLast
          · exact latest.continues other isEarlier
          · cases List.mem_singleton.mp isLast
            exact begins
        have ran : (latest.before.begin latest.id latest.environment).run?
            (latest.later ++ [move]) = some next := by
          rw [run?_append, latest.ran, Option.bind_some, run?, taken]
          rfl
        exact ⟨⟨latest.before, latest.id, latest.environment, _,
          latest.reachable, continues, ran⟩⟩

/-- Before the first start nothing has been announced and nothing is shown. -/
theorem Reachable.fresh_of_starts (reachable : Reachable config controller)
    (none : controller.starts = []) :
    controller.tracker = .startup ∧ controller.journal = [] := by
  induction reachable with
  | new => exact ⟨rfl, rfl⟩
  | @step controller next move before taken induction =>
      have length := before.length_starts_of_step? taken
      rw [none, List.length_nil] at length
      have noneBefore : controller.starts = [] :=
        List.length_eq_zero_iff.mp (by omega)
      have continues : move.isBeginning = false := by
        cases move with
        | begin => cases length
        | drop | publish | fire | started | watched | fetched | linked | woken
        | withdrawn | tick => rfl
      cases actor : move.actor? controller with
      | none =>
          obtain ⟨clock, rfl⟩ :=
            (before.follows taken).eq_of_actor?_eq_none continues actor
          exact induction noneBefore
      | some start =>
          have inRange := before.actor_lt_length actor taken
          rw [noneBefore] at inRange
          cases inRange

/-- A beginning announces no change of a step. -/
theorem recounts_begin (tracker : controller.tracker.OfStartup)
    (environment : String) :
    Recounts id { controller with tracker := .startup }
      (controller.begin id environment) := by
  have journal : (controller.begin id environment).journal =
      (_ :: _ :: _ :: controller.supersession?.toList) ++ controller.journal :=
    journal_begin controller id environment
  refine .of_plain journal ?_ ?_
  · intro event member
    obtain ⟨item, isItem, isEvent⟩ := List.mem_filterMap.mp member
    simp only [List.mem_cons] at isItem
    rcases isItem with rfl | rfl | rfl | announced
    · cases isEvent
    · cases isEvent
      rfl
    · cases isEvent
      rfl
    · obtain ⟨start, entry, -, rfl⟩ := eq_of_mem_supersession? announced
      cases isEvent
      rfl
  · rw [tracker_begin]
    exact Tracker.reset_eq_startup tracker.labels

/-- What was announced since the latest beginning tells the progress. -/
theorem Latest.recounts (latest : Latest config controller) :
    Recounts latest.id { latest.before with tracker := .startup }
      controller := by
  obtain ⟨before, id, environment, later, reachable, continues, ran⟩ := latest
  have begun : Reachable config (before.begin id environment) :=
    .step (.begin id environment) reachable rfl
  have runs : (before.begin id environment).Runs before.starts.length
      (before.newStart id environment).attempt := by
    refine ⟨before.newStart id environment, ?_, rfl⟩
    rw [getElem?_begin, if_pos rfl]
  have length := length_starts_begin before id environment
  exact (recounts_begin reachable.sound.tracker environment).trans
    (begun.recounts_run continues runs length.symm ran)

/-- In every reachable state, the changes of steps that were announced since
the latest beginning make the progress that is shown out of a new one, and all
of them name the workspace of the latest start. -/
theorem events_tell_the_progress (reachable : Reachable config controller) :
    (controller.starts = [] →
      controller.tracker = .startup ∧ controller.journal = []) ∧
    (controller.starts ≠ [] → Nonempty (Latest config controller)) ∧
    ∀ latest : Latest config controller,
      ∃ since, controller.journal = since ++ latest.before.journal ∧
        controller.tracker =
          Tracker.startup.replay (Entry.events since).reverse ∧
        ∀ event ∈ Entry.events since,
          event.isStep = true → event.workspaceId = latest.id := by
  exact ⟨reachable.fresh_of_starts, Latest.exists_of_starts reachable,
    fun latest => latest.recounts⟩

/-- A start that is rejected behind one of another workspace. -/
theorem events_tell_the_progress_of_rejected_start :
    ∃ controller,
      (Controller.new ⟨1, 0, .agentServer⟩).run?
          [.begin ⟨"v"⟩ "", .started 0 (.ok ⟨⟨"v"⟩, []⟩), .fire 0 "line",
            .begin ⟨"w"⟩ "", .started 1 (.error (.transport ""))] =
        some controller ∧
      controller.starts ≠ [] ∧
      ∃ latest : Latest ⟨1, 0, .agentServer⟩ controller,
        latest.id = ⟨"w"⟩ ∧ ∃ since,
        controller.journal = since ++ latest.before.journal ∧
        controller.tracker =
          Tracker.startup.replay (Entry.events since).reverse := by
  have ranBefore : (Controller.new ⟨1, 0, .agentServer⟩).run?
      [.begin ⟨"v"⟩ "", .started 0 (.ok ⟨⟨"v"⟩, []⟩), .fire 0 "line"] =
    some _ := rfl
  have ran : (Controller.new ⟨1, 0, .agentServer⟩).run?
      [.begin ⟨"v"⟩ "", .started 0 (.ok ⟨⟨"v"⟩, []⟩), .fire 0 "line",
        .begin ⟨"w"⟩ "", .started 1 (.error (.transport ""))] = some _ := rfl
  have before := Reachable.new.run ranBefore
  obtain ⟨-, -, told⟩ := events_tell_the_progress (Reachable.new.run ran)
  obtain ⟨since, journal, tracker, -⟩ :=
    told ⟨_, ⟨"w"⟩, "", [.started 1 (.error (.transport ""))], before,
      by simp [Move.isBeginning], rfl⟩
  exact ⟨_, ran, nofun, _, rfl, since, journal, tracker⟩

end Controller

end WorkspaceStartup
