import WorkspaceStartup.Proofs.Controller.Independence
import WorkspaceStartup.Proofs.Controller.Position
import WorkspaceStartup.Proofs.Controller.Recount

/-!
# Messages do not decide

What a message may change is the progress, whether an error has been reported,
and the entries that tell of either.  `course` is the controller without these.
A message leaves the course as it is, and what every other move does to the
course depends on the course alone.  Hence two runs that differ only in their
messages have the same course: calls return the same, at the same time, and the
service, the link and the bus see no difference.
-/

namespace WorkspaceStartup

/-- The move delivers a message. -/
def Move.isMessage : Move → Bool
  | .publish _ _ | .fire _ _ => true
  | _ => false

/-- The moves without those that deliver a message. -/
def muted (moves : List Move) : List Move :=
  moves.filter fun move => !move.isMessage

theorem muted_append (earlier later : List Move) :
    muted (earlier ++ later) = muted earlier ++ muted later :=
  List.filter_append ..

theorem muted_cons (move : Move) (moves : List Move) :
    muted (move :: moves) =
      if move.isMessage then muted moves else move :: muted moves := by
  cases message : move.isMessage with
  | true => simp [muted, message]
  | false => simp [muted, message]

theorem muted_append_cons {move : Move} (plain : move.isMessage = false)
    (earlier later : List Move) :
    muted (earlier ++ move :: later) =
      muted earlier ++ move :: muted later := by
  rw [muted_append, muted_cons, plain]
  rfl

@[simp] theorem Move.isMessage_arranged (orders : Machine.Orders) (move : Move) :
    (move.arranged orders).isMessage = move.isMessage := by
  cases move <;> rfl

theorem muted_map_arranged (orders : Machine.Orders) (moves : List Move) :
    muted (moves.map (Move.arranged orders)) =
      (muted moves).map (Move.arranged orders) := by
  rw [muted, List.filter_map]
  simp only [Function.comp_def, Move.isMessage_arranged]
  rfl

/-- The deed announces a change of a step or reports an error. -/
def Deed.isShown : Deed → Bool
  | .announced event => event.isStep
  | .reported _ => true
  | _ => false

def Start.unreported (start : Start) : Start :=
  { start with reported := false }

namespace Controller

variable {config : Config} {controller left right next : Controller}
  {start other : Nat} {attempt : Attempt} {id : WorkspaceId}
  {moves others : List Move} {move : Move} {orders : Machine.Orders}

/-- The controller without anything that a message may change. -/
def course (controller : Controller) : Controller :=
  { controller with
    tracker := .startup
    starts := controller.starts.map Start.unreported
    journal := controller.journal.filter fun item => !item.deed.isShown }

@[simp] theorem course_course :
    controller.course.course = controller.course := by
  simp [course, Start.unreported, Function.comp_def]

@[simp] theorem owns_course (attempt : Attempt) :
    controller.course.owns attempt = controller.owns attempt :=
  rfl

@[simp] theorem isCurrent_course (attempt : Attempt) :
    controller.course.isCurrent attempt = controller.isCurrent attempt :=
  rfl

@[simp] theorem getElem?_course (start : Nat) :
    controller.course.starts[start]? =
      controller.starts[start]?.map Start.unreported :=
  List.getElem?_map ..

@[simp] theorem call?_course (start : Nat) :
    controller.course.call? start = controller.call? start := by
  simp only [call?, getElem?_course, Option.map_map]
  rfl

@[simp] theorem pending?_course (start : Nat) :
    controller.course.pending? start = controller.pending? start := by
  simp only [pending?, getElem?_course]
  cases controller.starts[start]? with
  | none => rfl
  | some entry => rfl

/-! ## What a message may change -/

theorem course_enter_of_shown {deed : Deed} (shown : deed.isShown = true) :
    (controller.enter start deed).course = controller.course := by
  simp [course, enter, shown]

@[simp] theorem course_advance (step : Nat) :
    (controller.advance start id step).course = controller.course := by
  unfold advance
  split
  · exact course_enter_of_shown rfl
  · rfl

@[simp] theorem course_logLine (step : Nat) (line : String) :
    (controller.logLine start id step line).course = controller.course := by
  unfold logLine
  split
  · exact course_enter_of_shown rfl
  · rfl

@[simp] theorem course_replaceLog (step : Nat) (line : String) :
    (controller.replaceLog start id step line).course = controller.course := by
  unfold replaceLog
  split
  · exact course_enter_of_shown rfl
  · rfl

@[simp] theorem course_markFailed (step : Nat) :
    (controller.markFailed start id step).course = controller.course := by
  unfold markFailed
  split
  · exact course_enter_of_shown rfl
  · rfl

@[simp] theorem course_flagCurrent (line : String) :
    (controller.flagCurrent start id line).course = controller.course := by
  rw [flagCurrent, course_logLine, course_markFailed]

@[simp] theorem course_flagFailure (failure : StartFailure) :
    (controller.flagFailure start id failure).course = controller.course := by
  unfold flagFailure
  split
  · rw [flagAndReplace, course_replaceLog, course_markFailed]
  · exact course_flagCurrent _

@[simp] theorem course_report (report : Report) :
    (controller.report start report).course = controller.course := by
  unfold Controller.report
  split
  · rfl
  · split
    · rfl
    · rw [course_enter_of_shown rfl]
      have same : (controller.starts.modify start fun entry =>
          { entry with reported := true }).map Start.unreported =
          controller.starts.map Start.unreported := by
        apply List.ext_getElem?
        intro other
        simp only [List.getElem?_map]
        refine map_changeStart Start.unreported _ ?_ controller start other
        exact fun _ => rfl
      simp only [course, changeStart, same]

theorem course_onStatus (body : String) :
    (controller.onStatus start attempt body).course = controller.course := by
  simp only [onStatus]
  split
  · rw [course_report, course_flagCurrent]
  · rfl

theorem course_onAgent (body : String) :
    (controller.onAgent start attempt body).course = controller.course := by
  simp only [onAgent]
  split
  · split
    · rw [course_report, course_markFailed, course_logLine, course_advance]
    · rw [course_logLine, course_advance]
  · rfl

theorem course_onOutput (body : String) :
    (controller.onOutput start attempt body).course = controller.course := by
  simp only [onOutput]
  split
  · exact course_logLine _ _
  · rfl

theorem course_handle (handler : Handler) (body : String) :
    (controller.handle handler body).course = controller.course := by
  unfold handle
  split
  · rfl
  · split
    · exact course_onStatus body
    · exact course_onAgent body
    · exact course_onOutput body

theorem course_of_message (message : move.isMessage = true) :
    (controller.step? move).map course = some controller.course := by
  cases move with
  | publish channel body =>
      simp only [step?, publish, Option.map_some]
      split
      · rw [course_handle]
      · rfl
  | fire position body =>
      simp only [step?, fire, Option.map_some]
      split
      · rw [course_handle]
      · rfl
  | begin | drop | started | watched | fetched | linked | woken | withdrawn
  | tick => cases message

/-! ## What no message changes -/

theorem course_enter {deed : Deed} (plain : deed.isShown = false) :
    (controller.enter start deed).course =
      controller.course.enter start deed := by
  simp [course, enter, plain]

theorem course_changeStart {change : Start → Start}
    (commutes : ∀ entry, (change entry).unreported = change entry.unreported) :
    (controller.changeStart start change).course =
      controller.course.changeStart start change := by
  have same : (controller.starts.modify start change).map Start.unreported =
      (controller.starts.map Start.unreported).modify start change := by
    apply List.ext_getElem?
    intro other
    by_cases here : start = other
    · simp [here, Function.comp_def, commutes]
    · simp [here]
  simp only [course, changeStart, same]

theorem course_setCall (call : Call) :
    (controller.setCall start call).course =
      controller.course.setCall start call :=
  course_changeStart fun _ => rfl

theorem course_putAttempt (state : Attempt × Bus Handler) :
    (controller.putAttempt start state).course =
      controller.course.putAttempt start state := by
  have changed : (controller.changeStart start fun entry =>
      { entry with attempt := state.1 }).course =
      controller.course.changeStart start fun entry =>
        { entry with attempt := state.1 } :=
    course_changeStart fun _ => rfl
  exact congrArg (fun after : Controller => { after with bus := state.2 })
    changed

theorem course_teardown (start : Nat) :
    (controller.teardown start).course = controller.course.teardown start := by
  simp only [teardown, getElem?_course]
  cases controller.starts[start]? with
  | none => rfl
  | some entry => exact course_putAttempt _

theorem course_invalidate (start : Nat) :
    (controller.invalidate start).course =
      controller.course.invalidate start := by
  simp only [invalidate, getElem?_course]
  cases controller.starts[start]? with
  | none => rfl
  | some entry => exact course_putAttempt _

theorem course_supersede :
    controller.supersede.course = controller.course.supersede := by
  have active : controller.course.active = controller.active := rfl
  simp only [supersede, active]
  split
  · rfl
  · next start _ =>
      simp only [getElem?_course]
      cases controller.starts[start]? with
      | none => rfl
      | some entry =>
          simp only [announce]
          rw [course_enter rfl, course_invalidate]
          rfl

theorem course_begin (environment : String) :
    (controller.begin id environment).course =
      controller.course.begin id environment := by
  have renewed : controller.renewed.course = controller.course.renewed := rfl
  have superseded : controller.renewed.supersede.course =
      controller.course.renewed.supersede :=
    course_supersede.trans (congrArg supersede renewed)
  have length : controller.course.starts.length = controller.starts.length :=
    List.length_map ..
  have starts : controller.course.renewed.supersede.starts =
      controller.renewed.supersede.starts.map Start.unreported :=
    (congrArg Controller.starts superseded).symm
  -- The new start carries no report yet, so it is part of the course as it is.
  have added : { controller.renewed.supersede with
        starts := controller.renewed.supersede.starts ++
          [controller.newStart id environment]
        active := some controller.starts.length }.course =
      { controller.course.renewed.supersede with
        starts := controller.course.renewed.supersede.starts ++
          [controller.course.newStart id environment]
        active := some controller.starts.length } := by
    rw [← superseded]
    simp only [course, List.map_append]
    rfl
  rw [begin_eq, begin_eq, course_enter rfl, announce, course_enter rfl,
    announce, course_enter rfl, added, length]
  rfl

/-! ## Turns -/

/-- Calls fail for all to see, and then the failure is part of the course. -/
theorem course_fail (failure : StartFailure) :
    (controller.fail start attempt failure).course =
      if failure.isSuperseded || !controller.owns attempt then
        (controller.course.teardown start).setCall start
          (.returned (.error .superseded))
      else
        ((controller.course.teardown start).announce start
          (.startFailed attempt.workspaceId failure.phase
            failure.shown)).setCall start (.returned (.error failure)) := by
  have sameOwner : (controller.teardown start).owns attempt =
      controller.owns attempt := by
    rw [owns, stamp_teardown, owns]
  simp only [fail, sameOwner]
  split
  · rw [course_setCall, course_teardown]
  · rw [course_setCall, announce, course_enter rfl, course_report,
      course_flagFailure, course_teardown]
    rfl

theorem course_fail_course (failure : StartFailure) :
    (controller.course.fail start attempt failure).course =
      (controller.fail start attempt failure).course := by
  rw [course_fail, course_fail, course_course, owns_course]

theorem course_linked (url : String) :
    (controller.linked start url).course =
      controller.course.linked start url := by
  rw [linked, course_enter rfl, course_teardown, course_enter rfl, linked]

theorem course_connected (url : String) :
    (controller.takeTurn start attempt (.connected url)).course =
      if controller.owns attempt then
        (((controller.course.linked start url).announce start
          (.agentConnected attempt.workspaceId url)).announce start
            (.startSucceeded attempt.workspaceId)).setCall start
              (.returned (.ok ()))
      else
        ((controller.course.linked start url).teardown start).setCall start
          (.returned (.error .superseded)) := by
  rw [takeTurn_connected]
  split
  · rw [course_setCall, announce, course_enter rfl, announce,
      course_enter rfl, course_advance, course_linked]
    rfl
  · rw [course_setCall, course_teardown, course_linked]

theorem course_takeTurn (turn : Reconnect.Turn) :
    (controller.course.takeTurn start attempt turn).course =
      (controller.takeTurn start attempt turn).course := by
  cases turn with
  | opening run =>
      simp only [takeTurn, announce]
      rw [course_setCall, course_enter rfl, course_enter rfl, course_course,
        course_setCall, course_enter rfl, course_enter rfl]
  | waiting run =>
      simp only [takeTurn]
      rw [course_setCall, course_course, course_setCall]
      rfl
  | connected url =>
      rw [course_connected, course_connected, course_course, owns_course]
  | exhausted attempts last =>
      simp only [takeTurn]
      rw [← course_teardown, course_fail_course]
  | cancelled => exact course_fail_course _

theorem course_subscribeChannels? (links : List Link) :
    controller.course.subscribeChannels? start attempt links =
      (controller.subscribeChannels? start attempt links).map course := by
  unfold subscribeChannels?
  rw [isCurrent_course]
  split
  · exact congrArg some (course_putAttempt _).symm
  · rfl

theorem course_onStarted (answer : Except ControlFailure StartResult) :
    (controller.course.onStarted start attempt answer).course =
      (controller.onStarted start attempt answer).course := by
  cases answer with
  | error cause => exact course_fail_course _
  | ok result =>
      simp only [onStarted, course_subscribeChannels?]
      cases controller.subscribeChannels? start attempt result.links with
      | none => exact course_fail_course _
      | some subscribed =>
          simp only [Option.map_some]
          rw [course_setCall, course_enter rfl, course_enter rfl, course_course,
            course_setCall, course_enter rfl, course_enter rfl]

theorem course_onWatched (answer : Except ControlFailure StatusChange) :
    (controller.course.onWatched start attempt answer).course =
      (controller.onWatched start attempt answer).course := by
  cases answer with
  | error cause => exact course_fail_course _
  | ok change =>
      simp only [onWatched]
      split
      · exact course_fail_course _
      · rw [course_setCall, course_enter rfl, course_course, course_setCall,
          course_enter rfl]

theorem course_onFetched (answer : Except ControlFailure Workspace) :
    (controller.course.onFetched start attempt answer).course =
      (controller.onFetched start attempt answer).course := by
  cases answer with
  | error cause => exact course_fail_course _
  | ok workspace =>
      have config : controller.course.config = controller.config := rfl
      simp only [onFetched, isCurrent_course, config]
      split
      · split
        · exact course_takeTurn _
        · exact course_fail_course _
      · exact course_fail_course _

/-! ## Moves and runs -/

/-- What a move does to the course depends on the course alone. -/
theorem course_step? (controller : Controller) (move : Move) :
    (controller.course.step? move).map course =
      (controller.step? move).map course := by
  have clock : controller.course.clock = controller.clock := rfl
  have told (message : move.isMessage = true) :
      (controller.course.step? move).map course =
        (controller.step? move).map course := by
    rw [course_of_message message, course_of_message message, course_course]
  cases move with
  | publish | fire => exact told rfl
  | begin id environment =>
      simp only [step?, Option.map_some, course_begin, course_course]
  | tick milliseconds =>
      let ticked (before : Controller) : Controller :=
        { before with clock := controller.clock + milliseconds }
      exact congrArg (fun before => some (ticked before)) course_course
  | drop start =>
      simp only [step?, pending?_course]
      cases controller.pending? start with
      | none => rfl
      | some waiting =>
          refine congrArg some ?_
          rw [course_setCall, course_course, course_setCall]
  | started start answer =>
      simp only [step?, pending?_course]
      split
      · exact congrArg some (course_onStarted answer)
      · rfl
  | watched start answer =>
      simp only [step?, pending?_course]
      split
      · exact congrArg some (course_onWatched answer)
      · rfl
  | fetched start answer =>
      simp only [step?, pending?_course]
      split
      · exact congrArg some (course_onFetched answer)
      · rfl
  | linked start outcome =>
      simp only [step?, pending?_course]
      split
      · exact congrArg some (course_takeTurn _)
      · rfl
  | woken start =>
      simp only [step?, pending?_course, clock, isCurrent_course]
      split
      · split
        · exact congrArg some (course_takeTurn _)
        · rfl
      · rfl
  | withdrawn start =>
      simp only [step?, pending?_course]
      split
      · rfl
      · split
        · exact congrArg some (course_fail_course _)
        · rfl
      · rfl

theorem course_step?_eq (same : left.course = right.course) (move : Move) :
    (left.step? move).map course = (right.step? move).map course := by
  rw [← course_step? left, same, course_step? right]

theorem course_run?_eq (same : left.course = right.course) :
    (left.run? moves).map course = (right.run? moves).map course := by
  induction moves generalizing left right with
  | nil => exact congrArg some same
  | cons move moves induction =>
      have steps := course_step?_eq same move
      simp only [run?]
      cases taken : left.step? move with
      | none =>
          rw [taken, Option.map_none, eq_comm, Option.map_eq_none_iff] at steps
          rw [steps]
      | some next =>
          rw [taken, Option.map_some, eq_comm, Option.map_eq_some_iff] at steps
          obtain ⟨other, takenOther, sameNext⟩ := steps
          rw [takenOther]
          exact induction sameNext.symm

/-- The course of a run is that of the same run without its messages. -/
theorem course_run?_muted :
    (controller.run? (muted moves)).map course =
      (controller.run? moves).map course := by
  induction moves generalizing controller with
  | nil => rfl
  | cons move moves induction =>
      rw [muted_cons]
      split
      · next message =>
          obtain ⟨next, taken, same⟩ :=
            Option.map_eq_some_iff.mp (@course_of_message controller _ message)
          rw [run?, taken, Option.bind_some, ← course_run?_eq same.symm,
            induction]
      · rw [run?, run?]
        cases controller.step? move with
        | none => rfl
        | some next => exact induction

/-- Runs that make the same moves but for messages take the same course. -/
theorem exists_runIn?_of_muted (same : muted others = muted moves)
    (ran : controller.runIn? orders moves = some left) :
    ∃ right, controller.runIn? orders others = some right ∧
      right.course = left.course := by
  have stillSame : muted (others.map (Move.arranged orders)) =
      muted (moves.map (Move.arranged orders)) := by
    rw [muted_map_arranged, muted_map_arranged, same]
  have courses :
      (controller.runIn? orders others).map course = some left.course := by
    rw [runIn?_eq, ← course_run?_muted, stillSame, course_run?_muted,
      ← runIn?_eq, ran, Option.map_some]
  exact Option.map_eq_some_iff.mp courses

theorem course_stepIn?_eq (same : left.course = right.course)
    (orders : Machine.Orders) (move : Move) :
    (left.stepIn? orders move).map course =
      (right.stepIn? orders move).map course := by
  rw [stepIn?_eq, stepIn?_eq]
  exact course_step?_eq same _

theorem isSome_stepIn?_of_course (same : left.course = right.course)
    (orders : Machine.Orders) (move : Move) :
    (left.stepIn? orders move).isSome = (right.stepIn? orders move).isSome := by
  rw [← Option.isSome_map, course_stepIn?_eq same, Option.isSome_map]

theorem call?_eq_of_course (same : left.course = right.course) (start : Nat) :
    left.call? start = right.call? start := by
  rw [← call?_course, same, call?_course]

theorem arrived_iff_of_course (same : left.course = right.course) :
    left.Arrived ↔ right.Arrived := by
  have length : left.starts.length = right.starts.length := by
    have lengths := congrArg (fun course => course.starts.length) same
    simpa only [course, List.length_map] using lengths
  unfold Arrived
  simp only [length, call?_eq_of_course same]

/-- A call does not return with a message. -/
theorem ReturnIn.not_isMessage {result : Except StartFailure Unit}
    (moment : ReturnIn config orders moves start result) :
    moment.move.isMessage = false := by
  rw [← Bool.not_eq_true, ← Move.isMessage_arranged orders]
  intro message
  obtain ⟨stage, pending⟩ := moment.pending
  have told := @course_of_message moment.before _ message
  rw [← stepIn?_eq, moment.taken, Option.map_some] at told
  have stays := call?_eq_of_course (Option.some.inj told) start
  rw [moment.returned, pending] at stays
  cases stays

/-- What returns in one of two such runs returns in the other with the same move
at the same time. -/
theorem ReturnIn.exists_twin {result : Except StartFailure Unit}
    (moment : ReturnIn config orders moves start result)
    (same : muted others = muted moves) :
    ∃ twin : ReturnIn config orders others start result,
      twin.move = moment.move ∧
      muted twin.earlier = muted moment.earlier ∧
      twin.before.clock = moment.before.clock := by
  have moves : muted moves =
      muted moment.earlier ++ moment.move :: muted moment.later := by
    rw [← muted_append_cons moment.not_isMessage, ← moment.split]
  obtain ⟨earlier, rest, rfl, sameEarlier, sameRest⟩ :=
    List.filter_eq_append_iff.mp (same.trans moves)
  obtain ⟨messages, later, rfl, unheard, -, sameLater⟩ :=
    List.filter_eq_cons_iff.mp sameRest
  have sameBefore : muted (earlier ++ messages) = muted moment.earlier := by
    have nothing : muted messages = [] := List.filter_eq_nil_iff.mpr unheard
    rw [muted_append, nothing, List.append_nil]
    exact sameEarlier
  obtain ⟨before, ran, beforeCourse⟩ :=
    exists_runIn?_of_muted sameBefore moment.ran
  have steps : (before.stepIn? orders moment.move).map course =
      some moment.after.course := by
    rw [course_stepIn?_eq beforeCourse, moment.taken, Option.map_some]
  obtain ⟨after, taken, afterCourse⟩ := Option.map_eq_some_iff.mp steps
  obtain ⟨stage, pending⟩ := moment.pending
  have clock : before.course.clock = moment.before.course.clock := by
    rw [beforeCourse]
  refine ⟨⟨earlier ++ messages, moment.move, later, before, after, ?_, ran,
    taken, ⟨stage, ?_⟩, ?_⟩, rfl, sameBefore, clock⟩
  · rw [List.append_assoc]
  · rw [call?_eq_of_course beforeCourse, pending]
  · rw [call?_eq_of_course afterCourse, moment.returned]

/-- Two runs that agree on everything but the messages have the same course, in
whatever orders both read details.  After both the same moves are possible, every
call returns in both with the same result, by the same move and at the same time,
and the progress differs at most in logs, in marks, and in whether the agent's
step has been reached. -/
theorem messages_never_decide (orders : Machine.Orders)
    (ran : (Controller.new config).runIn? orders moves = some controller)
    (same : muted others = muted moves) :
    ∃ other, (Controller.new config).runIn? orders others = some other ∧
      other.course = controller.course ∧
      (∀ start, other.call? start = controller.call? start) ∧
      other.bus = controller.bus ∧
      (∀ move, (other.stepIn? orders move).isSome =
        (controller.stepIn? orders move).isSome) ∧
      (∀ start result (moment : ReturnIn config orders moves start result),
        ∃ twin : ReturnIn config orders others start result,
          twin.move = moment.move ∧
          muted twin.earlier = muted moment.earlier ∧
          twin.before.clock = moment.before.clock) ∧
      other.tracker.steps.map (·.labels) =
        controller.tracker.steps.map (·.labels) ∧
      (other.tracker.current = controller.tracker.current ∨
        other.tracker.current ≤ Tracker.agentStep ∧
          controller.tracker.current ≤ Tracker.agentStep) := by
  obtain ⟨other, ranOther, courses⟩ := exists_runIn?_of_muted same ran
  have tracker := (Reachable.new.runIn ran).sound.tracker
  have trackerOther := (Reachable.new.runIn ranOther).sound.tracker
  have bus : other.course.bus = controller.course.bus := by
    rw [courses]
  refine ⟨other, ranOther, courses, call?_eq_of_course courses, bus,
    isSome_stepIn?_of_course courses orders, ?_, ?_, ?_⟩
  · intro start result moment
    exact moment.exists_twin same
  · rw [trackerOther.labels, tracker.labels]
  · -- Only the last step tells anything, and both runs have reached it or not.
    have last : other.tracker.current = Tracker.startedStep ↔
        controller.tracker.current = Tracker.startedStep := by
      rw [runIn?_eq] at ran ranOther
      rw [(Truthful.of_run ranOther).arrived, (Truthful.of_run ran).arrived]
      exact arrived_iff_of_course courses
    have within := tracker.current_le
    have withinOther := trackerOther.current_le
    simp only [Tracker.startedStep, Tracker.agentStep] at *
    omega

theorem messages_never_decide_of_line :
    ∃ controller other,
      (Controller.new ⟨1, 0, .agentServer⟩).runIn? Machine.Enumeration.reversed
          [.begin ⟨"w"⟩ "", .started 0 (.ok ⟨⟨"w"⟩, []⟩), .fire 0 "line"] =
        some controller ∧
      (Controller.new ⟨1, 0, .agentServer⟩).runIn? Machine.Enumeration.reversed
          [.begin ⟨"w"⟩ "", .publish "" "", .started 0 (.ok ⟨⟨"w"⟩, []⟩)] =
        some other ∧
      controller.tracker.current = Tracker.agentStep ∧
      other.tracker.current = Tracker.runtimeStep ∧
      other.course = controller.course := by
  have ran : (Controller.new ⟨1, 0, .agentServer⟩).runIn?
      Machine.Enumeration.reversed
      [.begin ⟨"w"⟩ "", .started 0 (.ok ⟨⟨"w"⟩, []⟩), .fire 0 "line"] =
    some _ := rfl
  have same : muted [.begin ⟨"w"⟩ "", .publish "" "",
      .started 0 (.ok ⟨⟨"w"⟩, []⟩)] =
    muted [.begin ⟨"w"⟩ "", .started 0 (.ok ⟨⟨"w"⟩, []⟩), .fire 0 "line"] :=
    rfl
  obtain ⟨other, ranOther, courses, -⟩ := messages_never_decide _ ran same
  refine ⟨_, other, ran, ranOther, rfl, ?_, courses⟩
  cases ranOther
  rfl

end Controller

end WorkspaceStartup
