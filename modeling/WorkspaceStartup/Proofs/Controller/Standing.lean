import WorkspaceStartup.Proofs.Controller.Verdict

/-!
# How far a start has come

A start that is neither superseded nor dropped goes through its stages in order
and asks at each of them for what comes next, once.  Its standing tells how many
turns it has taken, how many tries have ended, and what it has asked for; each
turn takes it from one standing to the next, and what others do leaves it where
it is.  So it ends after a bounded number of turns as its answers decide.
-/

namespace WorkspaceStartup

/-- The start that the move carries further. -/
def Move.turn? : Move → Option Nat
  | .started start _ | .watched start _ | .fetched start _ | .linked start _
  | .woken start | .withdrawn start => some start
  | .begin _ _ | .drop _ | .publish _ _ | .fire _ _ | .tick _ => none

/-- How a try of the start ends with the move. -/
def Move.outcome? (start : Nat) : Move → Option (Except LinkFailure Unit)
  | .linked other outcome => if other = start then some outcome else none
  | _ => none

/-- How the tries of a start end in the moves. -/
def outcomes (start : Nat) (moves : List Move) :
    List (Except LinkFailure Unit) :=
  moves.filterMap (Move.outcome? start)

/-- How many turns a start takes in the moves. -/
def turns (start : Nat) (moves : List Move) : Nat :=
  moves.countP (·.turn? == some start)

theorem outcomes_append_of_none {start : Nat} {move : Move}
    (none : move.outcome? start = none) (moves : List Move) :
    outcomes start (moves ++ [move]) = outcomes start moves := by
  rw [outcomes, List.filterMap_append, List.filterMap_cons_none none]
  exact List.append_nil _

theorem outcomes_append_linked (start : Nat) (moves : List Move)
    (outcome : Except LinkFailure Unit) :
    outcomes start (moves ++ [.linked start outcome]) =
      outcomes start moves ++ [outcome] := by
  have isOutcome : Move.outcome? start (.linked start outcome) = some outcome :=
    if_pos rfl
  rw [outcomes, List.filterMap_append, List.filterMap_cons_some isOutcome]
  rfl

theorem turns_append (start : Nat) (moves : List Move) (move : Move) :
    turns start (moves ++ [move]) =
      turns start moves + if move.turn? = some start then 1 else 0 := by
  rw [turns, List.countP_append, List.countP_singleton]
  simp only [beq_iff_eq, turns]

/-- The move neither supersedes nor drops the start, and whom the start has
asked answers as foreseen. -/
def Startup.Suits (startup : Startup) (start : Nat) : Move → Prop
  | .begin _ _ => False
  | .drop other => other ≠ start
  | .started other answer => other = start → answer = startup.started
  | .watched other answer => other = start → answer = startup.watched
  | .fetched other answer => other = start → answer = startup.fetched
  | .linked _ _ | .woken _ | .withdrawn _ | .publish _ _ | .fire _ _
  | .tick _ => True

/-- The start goes on undisturbed in the moves, and all answers are as
foreseen. -/
structure Startup.Foresees (startup : Startup) (start : Nat)
    (moves : List Move) : Prop where
  suits : ∀ move ∈ moves, startup.Suits start move
  tried : ∀ position outcome, (outcomes start moves)[position]? = some outcome →
    outcome = startup.tries position

namespace Controller

variable {config : Config} {controller next : Controller} {start : Nat}
  {attempt : Attempt} {call : Call} {requests : List Deed}
  {moves : List Move} {move : Move} {orders : Machine.Orders}

/-- What has been asked for on behalf of a start, in order. -/
def requestsOf (controller : Controller) (start : Nat) : List Deed :=
  (Entry.select Deed.request? start controller.journal).reverse

/-! ## Acting on behalf of a start -/

/-- The call of the start is as given, and so is what it has asked for. -/
structure Stands (controller : Controller) (start : Nat) (call : Call)
    (requests : List Deed) : Prop where
  call : controller.call? start = some call
  requests : controller.requestsOf start = requests

namespace Stands

theorem of_same (stands : controller.Stands start call requests)
    (sameCall : next.call? start = controller.call? start)
    (sameRequests : next.requestsOf start = controller.requestsOf start) :
    next.Stands start call requests :=
  ⟨sameCall.trans stands.call, sameRequests.trans stands.requests⟩

theorem requestsOf_course (controller : Controller) (start : Nat) :
    controller.course.requestsOf start = controller.requestsOf start := by
  have same : Entry.select Deed.request? start
      (controller.journal.filter fun item => !item.deed.isShown) =
    Entry.select Deed.request? start controller.journal := by
    induction controller.journal with
    | nil => rfl
    | cons item items induction =>
        rw [List.filter_cons]
        split
        · rw [Entry.select_cons, Entry.select_cons, induction]
        · next shown =>
            have nothing : item.deed.request? = none := by
              cases deed : item.deed with
              | announced | reported => rfl
              | askedStart | askedStatus | askedDetails | opened | connected
              | closed => simp [deed, Deed.isShown] at shown
            rw [induction, Entry.select_cons_of_none nothing]
  exact congrArg List.reverse same

theorem of_course (stands : controller.course.Stands start call requests) :
    controller.Stands start call requests :=
  stands.of_same (call?_course start).symm
    (requestsOf_course controller start).symm

theorem course (stands : controller.Stands start call requests) :
    controller.course.Stands start call requests :=
  stands.of_same (call?_course start) (requestsOf_course controller start)

theorem enter (stands : controller.Stands start call requests) {deed : Deed}
    (nothing : deed.request? = none) :
    (controller.enter start deed).Stands start call requests :=
  stands.of_same rfl (congrArg List.reverse (Entry.select_cons_of_none nothing))

theorem ask (stands : controller.Stands start call requests) (deed : Deed)
    (asks : deed.request? = some deed) :
    (controller.enter start deed).Stands start call (requests ++ [deed]) := by
  refine ⟨stands.call, ?_⟩
  rw [Controller.requestsOf, Controller.enter, Entry.select_cons, if_pos rfl,
    asks, ← stands.requests]
  exact List.reverse_cons ..

theorem setCall (stands : controller.Stands start call requests)
    (other : Call) :
    (controller.setCall start other).Stands start other requests := by
  refine ⟨?_, stands.requests⟩
  rw [call?_setCall_eq_map, if_pos rfl, stands.call]
  rfl

theorem teardown (stands : controller.Stands start call requests) :
    (controller.teardown start).Stands start call requests := by
  apply stands.of_same
  · exact call?_teardown start start
  · rw [Controller.requestsOf, journal_teardown, Controller.requestsOf]

theorem putAttempt (stands : controller.Stands start call requests)
    (state : Attempt × Bus Handler) :
    (controller.putAttempt start state).Stands start call requests :=
  stands.of_same (call?_putAttempt state start) rfl

theorem fail (stands : controller.Stands start call requests)
    (owned : controller.owns attempt = true) {failure : StartFailure}
    (final : failure.isSuperseded = false) :
    (controller.fail start attempt failure).Stands start
      (.returned (.error failure)) requests := by
  apply of_course
  rw [course_fail, owned, final]
  exact (stands.course.teardown.enter rfl).setCall _

theorem proceed (stands : controller.Stands start call requests)
    (run : Reconnect) :
    (controller.takeTurn start attempt (run.proceed true)).Stands start
      (.pending (.opening { run with made := run.made + 1 }))
      (requests ++ [.opened run.url]) :=
  ((stands.enter rfl).ask (.opened run.url) rfl).setCall _

theorem connect (stands : controller.Stands start call requests)
    (owned : controller.owns attempt = true) (url : String) :
    (controller.takeTurn start attempt (.connected url)).Stands start
      (.returned (.ok ())) requests := by
  apply of_course
  rw [course_connected, if_pos owned]
  have linked : (controller.course.linked start url).Stands start call
      requests :=
    ((stands.course.enter rfl).teardown).enter rfl
  exact ((linked.enter rfl).enter rfl).setCall _

theorem exhaust (stands : controller.Stands start call requests)
    (owned : controller.owns attempt = true) (attempts : Nat)
    (last : LinkFailure) :
    (controller.takeTurn start attempt (.exhausted attempts last)).Stands start
      (.returned (.error (.connectionExhausted attempts last))) requests := by
  have stillOwned : (controller.teardown start).owns attempt = true := by
    rw [owns, stamp_teardown]
    exact owned
  exact stands.teardown.fail stillOwned rfl

end Stands

/-! ## What others do -/

theorem requestsOf_eq_of_within {actor : Nat}
    (within : Within actor controller next) (other : start ≠ actor) :
    next.requestsOf start = controller.requestsOf start := by
  obtain ⟨added, journal, own⟩ := within.journal
  have others : ∀ item ∈ added, item.start ≠ start := by
    intro item member same
    exact other (same.symm.trans (own item member))
  rw [requestsOf, journal, Entry.select_append, Entry.select_eq_nil others]
  rfl

/-- Only a turn of the start, or its caller, moves it. -/
theorem Stands.stays (stands : controller.Stands start call requests)
    (reachable : Reachable config controller)
    (taken : controller.stepIn? orders move = some next)
    (continues : move.isBeginning = false) (kept : move ≠ .drop start)
    (apart : move.turn? ≠ some start) : next.Stands start call requests := by
  rw [stepIn?_eq] at taken
  rw [← Move.isBeginning_arranged orders] at continues
  cases message : (move.arranged orders).isMessage with
  | true =>
      have told := @course_of_message controller _ message
      rw [taken, Option.map_some, Option.some.injEq] at told
      apply Stands.of_course
      rw [told]
      exact stands.course
  | false =>
      have follows := reachable.follows taken
      cases actor : (move.arranged orders).actor? controller with
      | none =>
          obtain ⟨clock, rfl⟩ := follows.eq_of_actor?_eq_none continues actor
          exact stands.of_same rfl rfl
      | some other =>
          have different : start ≠ other := by
            rintro rfl
            cases move with
            | begin | tick => cases actor
            | publish | fire => cases message
            | drop =>
                cases actor
                exact kept rfl
            | started | watched | fetched | linked | woken | withdrawn =>
                exact apart actor
          have within := follows.within actor
          refine stands.of_same ?_ (requestsOf_eq_of_within within different)
          exact congrArg (·.map (·.call)) (within.others different)

end Controller

namespace Startup

open Controller

variable {startup : Startup} {controller next : Controller}
  {start ended turned : Nat} {attempt : Attempt} {stage : Stage}
  {run : Reconnect} {moves : List Move} {move : Move}

/-! ## Taking turns -/

/-- How far a start can have come: how many tries have ended and how many turns
it has taken, the state of its call, and what it has asked for. -/
inductive Comes (startup : Startup) : Nat → Nat → Call → List Deed → Prop
  | starting : Comes startup 0 0 (.pending .starting) startup.asked
  | watching {result : StartResult} (started : startup.started = .ok result) :
      Comes startup 0 1 (.pending .watching) startup.watching
  | fetching (runs : startup.Runs) :
      Comes startup 0 2 (.pending .fetching) startup.fetching
  | opening {url : String} {made : Nat} (reaches : startup.Reaches url)
      (within : made < startup.budget) (failed : startup.FailsUntil made) :
      Comes startup made (2 * made + 3)
        (.pending (.opening ⟨url, made + 1, startup.budget - made⟩))
        (startup.opening url (made + 1))
  | waiting {url : String} {made wakeTime : Nat}
      (reaches : startup.Reaches url) (within : made < startup.budget)
      (failed : startup.FailsUntil made) :
      Comes startup made (2 * made + 2)
        (.pending (.waiting ⟨url, made, startup.budget - made⟩ wakeTime))
        (startup.opening url made)
  | returned {ended turned : Nat} {result : Except StartFailure Unit}
      {requests : List Deed} (leads : startup.Leads result requests)
      (bounded : turned ≤ 2 * startup.budget + 2) :
      Comes startup ended turned (.returned result) requests

/-- The start has come so far in the controller. -/
def Stands (startup : Startup) (start ended turned : Nat)
    (controller : Controller) : Prop :=
  ∃ call requests, startup.Comes ended turned call requests ∧
    controller.Stands start call requests

/-- The start is the latest, and it is made for the workspace. -/
structure Attends (startup : Startup) (start : Nat)
    (controller : Controller) : Prop where
  reachable : Reachable startup.config controller
  latest : start + 1 = controller.starts.length
  runs : controller.Runs start
    (.new startup.workspace.id (start + 1) startup.config.budget)

/-- The start waits at the stage with the attempt, and has come so far. -/
structure Waits (startup : Startup) (start ended turned : Nat)
    (controller : Controller) (attempt : Attempt) (stage : Stage)
    (requests : List Deed) : Prop where
  comes : startup.Comes ended turned (.pending stage) requests
  stands : controller.Stands start (.pending stage) requests
  config : controller.config = startup.config
  owned : controller.owns attempt = true
  current : controller.isCurrent attempt = true
  workspaceId : attempt.workspaceId = startup.workspace.id
  budget : attempt.budget = startup.config.budget

theorem Attends.step (attends : startup.Attends start controller)
    (continues : move.isBeginning = false)
    (taken : controller.stepIn? startup.orders move = some next) :
    startup.Attends start next := by
  rw [stepIn?_eq] at taken
  rw [← Move.isBeginning_arranged startup.orders] at continues
  constructor
  case reachable => exact .step _ attends.reachable taken
  case latest =>
    rw [attends.reachable.length_starts_of_step? taken, attends.latest]
    simp [beginnings, continues]
  case runs =>
    exact (attends.reachable.follows taken).runs continues attends.runs

theorem Attends.waits (attends : startup.Attends start controller)
    (stands : startup.Stands start ended turned controller)
    (pending : controller.pending? start = some (attempt, stage)) :
    ∃ requests,
      startup.Waits start ended turned controller attempt stage requests := by
  obtain ⟨entry, found, rfl, waits⟩ := pending?_eq_some_iff.mp pending
  obtain ⟨call, requests, comes, stands⟩ := stands
  have same : call = .pending stage := by
    have isCall := stands.call
    rw [call?_of_found found, waits] at isCall
    exact (Option.some.inj isCall).symm
  subst same
  have numbered := attends.reachable.sound.numbered
  have runs : controller.Runs start entry.attempt := ⟨entry, found, rfl⟩
  have bare : entry.attempt.bare = (Attempt.new startup.workspace.id
      (start + 1) startup.config.budget).bare := by
    obtain ⟨other, foundOther, bare⟩ := attends.runs
    rw [found] at foundOther
    cases foundOther
    exact bare
  exact ⟨requests,
    { comes := comes
      stands := stands
      config := attends.reachable.config_eq
      owned := (numbered.owns_iff runs).mpr attends.latest
      current := (numbered.isCurrent_iff runs).mpr attends.latest
      workspaceId := congrArg (·.workspaceId) bare
      budget := congrArg (·.budget) bare }⟩

namespace Waits

variable {requests : List Deed}

theorem onStarted
    (waits : startup.Waits start ended turned controller attempt .starting
      requests) :
    startup.Stands start ended (turned + 1)
      (controller.onStarted start attempt startup.started) := by
  obtain ⟨comes, stands, -, owned, current, workspaceId, -⟩ := waits
  cases comes
  cases answer : startup.started with
  | error cause =>
      refine ⟨_, _, .returned (.rejected answer) (by omega), ?_⟩
      exact stands.fail owned rfl
  | ok result =>
      have subscribed :
          controller.subscribeChannels? start attempt result.links = some _ :=
        subscribeChannels?_eq_some_iff.mpr ⟨current, rfl⟩
      simp only [Controller.onStarted, subscribed, workspaceId]
      refine ⟨_, _, .watching answer, ?_⟩
      have put := stands.putAttempt (attempt.subscribeEach controller.bus
        (advertised start startup.workspace.id result.links))
      have asks := (put.ask (.askedStatus startup.workspace.id .running)
        rfl).ask (.askedStatus startup.workspace.id .error) rfl
      rw [List.append_assoc] at asks
      exact asks.setCall _

theorem onWatched
    (waits : startup.Waits start ended turned controller attempt .watching
      requests) :
    startup.Stands start ended (turned + 1)
      (controller.onWatched start attempt startup.watched) := by
  obtain ⟨comes, stands, -, owned, -, workspaceId, -⟩ := waits
  cases comes with
  | watching started =>
  cases answer : startup.watched with
  | error cause =>
      refine ⟨_, _, .returned (.unwatched started answer) (by omega), ?_⟩
      exact stands.fail owned rfl
  | ok change =>
      by_cases errored : change.status = .error
      · obtain ⟨_, leads⟩ : ∃ _, startup.Leads
            (.error (.ofStatusError change.error)) startup.watching :=
          ⟨trivial, .ofStatusError started answer errored⟩
        simp only [Controller.onWatched, errored, if_true]
        refine ⟨_, _, .returned leads (by omega), ?_⟩
        exact stands.fail owned rfl
      · simp only [Controller.onWatched, errored, if_false, workspaceId]
        refine ⟨_, _, .fetching ⟨⟨_, started⟩, change, answer, errored⟩, ?_⟩
        exact (stands.ask (.askedDetails startup.workspace.id) rfl).setCall _

theorem onFetched
    (waits : startup.Waits start ended turned controller attempt .fetching
      requests) :
    startup.Stands start ended (turned + 1)
      (controller.onFetched start attempt
        (startup.fetched.map (Workspace.arranged startup.orders))) := by
  obtain ⟨comes, stands, config, owned, current, -, budget⟩ := waits
  have positive := startup.budget_pos
  cases comes with
  | fetching runs =>
  cases answer : startup.fetched with
  | error cause =>
      refine ⟨_, _, .returned (.unknown runs answer) (by omega), ?_⟩
      exact stands.fail owned rfl
  | ok details =>
      simp only [Except.map, Controller.onFetched, current, if_true, config,
        EndpointStrategy.resolve?_arranged]
      cases resolved :
          startup.config.strategy.resolveIn? startup.orders details with
      | none =>
          refine ⟨_, _, .returned (.unreachable runs answer resolved)
            (by omega), ?_⟩
          exact stands.fail owned rfl
      | some url =>
          have reaches : startup.Reaches url :=
            ⟨runs, details, answer, resolved⟩
          refine ⟨_, _, .opening reaches positive failsUntil_zero, ?_⟩
          rw [opening_succ]
          have first : Reconnect.new url attempt.budget =
              ⟨url, 0, startup.budget - 0⟩ := by
            rw [Reconnect.new, budget]
            rfl
          simp only [first]
          have none : startup.opening url 0 = startup.fetching :=
            List.append_nil _
          rw [none]
          exact stands.proceed _

theorem proceed {wakeTime : Nat}
    (waits : startup.Waits start ended turned controller attempt
      (.waiting run wakeTime) requests) :
    startup.Stands start ended (turned + 1)
      (controller.takeTurn start attempt (run.proceed true)) := by
  obtain ⟨comes, stands, -⟩ := waits
  cases comes with
  | waiting reaches within failed =>
      refine ⟨_, _, .opening reaches within failed, ?_⟩
      rw [opening_succ]
      exact stands.proceed _

theorem settle
    (waits : startup.Waits start ended turned controller attempt
      (.opening run) requests) :
    startup.Stands start (ended + 1) (turned + 1)
      (controller.takeTurn start attempt
        (run.settle (startup.tries ended))) := by
  obtain ⟨comes, stands, -, owned, -⟩ := waits
  cases comes with
  | @opening url _ reaches within failed =>
  cases outcome : startup.tries ended with
  | ok =>
      refine ⟨_, _, .returned (.connected reaches within failed outcome)
        (by omega), ?_⟩
      exact stands.connect owned url
  | error failure =>
      have stillFailed : startup.FailsUntil (ended + 1) := by
        intro earlier order succeeded
        rcases Nat.lt_succ_iff_lt_or_eq.mp order with before | same
        · exact failed earlier before succeeded
        · rw [same, outcome] at succeeded
          cases succeeded
      simp only [Reconnect.settle]
      split
      · next remains =>
          rw [Nat.sub_sub]
          exact ⟨_, _, .waiting reaches (by omega) stillFailed,
            stands.setCall _⟩
      · next spent =>
          have all : startup.budget = ended + 1 := by omega
          have leads : startup.Leads
              (.error (.connectionExhausted startup.budget failure))
              (startup.opening url startup.budget) := by
            refine .exhausted reaches (all ▸ stillFailed) ?_
            rw [all]
            exact outcome
          rw [all] at leads
          refine ⟨_, _, .returned leads (by omega), ?_⟩
          exact stands.exhaust owned _ _

end Waits

theorem Suits.continues (suits : startup.Suits start move) :
    move.isBeginning = false := by
  cases move with
  | begin => exact suits.elim
  | drop | publish | fire | started | watched | fetched | linked | woken
  | withdrawn | tick => rfl

theorem Foresees.init (foresees : startup.Foresees start (moves ++ [move])) :
    startup.Foresees start moves where
  suits := fun other member =>
    foresees.suits other (List.mem_append_left _ member)
  tried := by
    intro position outcome found
    apply foresees.tried position
    rw [outcomes, List.filterMap_append, List.getElem?_append_left]
    · exact found
    · exact (List.getElem?_eq_some_iff.mp found).1

theorem Foresees.last (foresees : startup.Foresees start (moves ++ [move])) :
    startup.Suits start move :=
  foresees.suits move (List.mem_append_right _ List.mem_cons_self)

theorem Foresees.append (foresees : startup.Foresees start moves)
    (suits : startup.Suits start move)
    (none : move.outcome? start = none) :
    startup.Foresees start (moves ++ [move]) where
  suits := by
    intro other member
    rcases List.mem_append.mp member with earlier | last
    · exact foresees.suits other earlier
    · cases List.mem_singleton.mp last
      exact suits
  tried := by
    rw [outcomes_append_of_none none]
    exact foresees.tried

theorem Foresees.append_linked (foresees : startup.Foresees start moves) :
    startup.Foresees start
      (moves ++ [.linked start (startup.tries (outcomes start moves).length)])
    where
  suits := by
    intro other member
    rcases List.mem_append.mp member with earlier | last
    · exact foresees.suits other earlier
    · cases List.mem_singleton.mp last
      trivial
  tried := by
    intro position outcome found
    rw [outcomes_append_linked] at found
    rcases Nat.lt_trichotomy position (outcomes start moves).length with
      before | same | beyond
    · rw [List.getElem?_append_left before] at found
      exact foresees.tried position outcome found
    · subst same
      rw [List.getElem?_concat_length] at found
      exact (Option.some.inj found).symm
    · rw [List.getElem?_eq_none (by simp; omega)] at found
      cases found

/-- The outcome of the latest try is that of the first one left. -/
theorem Foresees.outcome_eq {outcome : Except LinkFailure Unit}
    (foresees : startup.Foresees start (moves ++ [.linked start outcome])) :
    outcome = startup.tries (outcomes start moves).length := by
  apply foresees.tried
  rw [outcomes_append_linked]
  exact List.getElem?_concat_length

/-- A turn takes the start from one standing to the next. -/
theorem Attends.turn (attends : startup.Attends start controller)
    (stands : startup.Stands start (outcomes start moves).length turned
      controller)
    (foresees : startup.Foresees start (moves ++ [move]))
    (isTurn : move.turn? = some start)
    (taken : controller.stepIn? startup.orders move = some next) :
    startup.Stands start (outcomes start (moves ++ [move])).length (turned + 1)
      next := by
  have suits := foresees.last
  rw [stepIn?_eq] at taken
  cases move with
  | begin | drop | publish | fire | tick => cases isTurn
  | started _ answer =>
      cases isTurn
      cases suits rfl
      simp only [Move.arranged, step?] at taken
      split at taken
      · next attempt pending =>
          cases taken
          obtain ⟨requests, waits⟩ := attends.waits stands pending
          rw [outcomes_append_of_none rfl]
          exact waits.onStarted
      · cases taken
  | watched _ answer =>
      cases isTurn
      cases suits rfl
      simp only [Move.arranged, step?] at taken
      split at taken
      · next attempt pending =>
          cases taken
          obtain ⟨requests, waits⟩ := attends.waits stands pending
          rw [outcomes_append_of_none rfl]
          exact waits.onWatched
      · cases taken
  | fetched _ answer =>
      cases isTurn
      cases suits rfl
      simp only [Move.arranged, step?] at taken
      split at taken
      · next attempt pending =>
          cases taken
          obtain ⟨requests, waits⟩ := attends.waits stands pending
          rw [outcomes_append_of_none rfl]
          exact waits.onFetched
      · cases taken
  | linked _ outcome =>
      cases isTurn
      cases foresees.outcome_eq
      simp only [Move.arranged, step?] at taken
      split at taken
      · next attempt run pending =>
          cases taken
          obtain ⟨requests, waits⟩ := attends.waits stands pending
          rw [outcomes_append_linked, List.length_append]
          exact waits.settle
      · cases taken
  | woken =>
      cases isTurn
      simp only [Move.arranged, step?] at taken
      split at taken
      · next attempt run wakeTime pending =>
          obtain ⟨requests, waits⟩ := attends.waits stands pending
          rw [waits.current] at taken
          split at taken
          · cases taken
            rw [outcomes_append_of_none rfl]
            exact waits.proceed
          · cases taken
      · cases taken
  | withdrawn =>
      cases isTurn
      obtain ⟨entry, stage, found, call, -, cancelled, -⟩ :=
        of_withdrawn taken
      have late := (attends.reachable.sound.numbered.attempt found).2.mp
        cancelled
      have latest := attends.latest
      omega

/-! ## From the beginning to the end -/

/-- The start has come as far as the moves have brought it. -/
structure Standing (startup : Startup) (start : Nat) (moves : List Move)
    (controller : Controller) : Prop where
  attends : startup.Attends start controller
  stands : startup.Stands start (outcomes start moves).length
    (turns start moves) controller
  foresees : startup.Foresees start moves

theorem Standing.step (standing : startup.Standing start moves controller)
    (foresees : startup.Foresees start (moves ++ [move]))
    (taken : controller.stepIn? startup.orders move = some next) :
    startup.Standing start (moves ++ [move]) next := by
  obtain ⟨attends, stands, -⟩ := standing
  have suits := foresees.last
  refine ⟨attends.step suits.continues taken, ?_, foresees⟩
  rw [turns_append]
  by_cases isTurn : move.turn? = some start
  · rw [if_pos isTurn]
    exact attends.turn stands foresees isTurn taken
  · -- What is not a turn of the start leaves it where it is.
    have kept : move ≠ .drop start := by
      rintro rfl
      exact suits rfl
    have none : move.outcome? start = none := by
      cases move with
      | linked other =>
          refine if_neg fun same => ?_
          exact isTurn (congrArg some same)
      | begin | drop | publish | fire | started | watched | fetched | woken
      | withdrawn | tick => rfl
    obtain ⟨call, requests, comes, stands⟩ := stands
    rw [if_neg isTurn, outcomes_append_of_none none]
    exact ⟨call, requests, comes,
      stands.stays attends.reachable taken suits.continues kept isTurn⟩

theorem unanswered_begin (controller : Controller) (id : WorkspaceId)
    (environment : String) :
    (controller.begin id environment).Unanswered controller.starts.length := by
  rw [Unanswered, call?, getElem?_begin, if_pos rfl]
  rfl

/-- The standing of a start that has only just begun. -/
theorem standing_begin (reachable : Reachable startup.config controller) :
    startup.Standing controller.starts.length []
      (controller.begin startup.workspace.id
        startup.workspace.config.defaultEnvironment) where
  attends := {
    reachable := .step (.begin _ _) reachable rfl
    latest := (length_starts_begin controller _ _).symm
    runs := by
      refine ⟨_, (getElem?_begin controller _ _ _).trans (if_pos rfl), ?_⟩
      rw [newStart, reachable.sound.numbered.generation, reachable.config_eq] }
  stands := by
    refine ⟨_, _, .starting, unanswered_begin controller _ _, ?_⟩
    rw [requestsOf, Entry.select, ofStart_begin reachable.accounted]
    rfl
  foresees := ⟨nofun, nofun⟩

/-- What every foreseen move keeps is kept from the beginning on. -/
theorem Standing.run_induction (holds : Controller → Prop)
    {origin : Controller} (standing : startup.Standing start [] origin)
    (kept : ∀ {moves controller move next},
      startup.Standing start moves controller →
      startup.Foresees start (moves ++ [move]) →
      controller.stepIn? startup.orders move = some next →
      holds controller → holds next)
    (foresees : startup.Foresees start moves)
    (ran : origin.runIn? startup.orders moves = some controller)
    (before : holds origin) :
    startup.Standing start moves controller ∧ holds controller := by
  induction moves using List.reverseRecOn generalizing controller with
  | nil =>
      cases ran
      exact ⟨standing, before⟩
  | append_singleton earlier move induction =>
      rw [runIn?_append] at ran
      obtain ⟨between, ranBetween, rest⟩ := Option.bind_eq_some_iff.mp ran
      obtain ⟨after, taken, same⟩ := Option.bind_eq_some_iff.mp rest
      cases same
      obtain ⟨stands, held⟩ := induction foresees.init ranBetween
      exact ⟨stands.step foresees taken, kept stands foresees taken held⟩

theorem Comes.bounded_of_pending {requests : List Deed}
    (comes : startup.Comes ended turned (.pending stage) requests) :
    turned < 2 * startup.budget + 2 := by
  have positive := startup.budget_pos
  cases comes with
  | starting | watching | fetching | opening | waiting => omega

/-- The moves go on until the start has taken one turn more. -/
def Continues (startup : Startup) (start : Nat) (moves : List Move)
    (controller : Controller) : Prop :=
  ∃ rest next, controller.runIn? startup.orders rest = some next ∧
    startup.Standing start (moves ++ rest) next ∧
    turns start (moves ++ rest) = turns start moves + 1

theorem Standing.turn (standing : startup.Standing start moves controller)
    (foresees : startup.Foresees start (moves ++ [move]))
    (isTurn : move.turn? = some start)
    (possible : (controller.stepIn? startup.orders move).isSome = true) :
    startup.Continues start moves controller := by
  obtain ⟨next, taken⟩ := Option.isSome_iff_exists.mp possible
  refine ⟨[move], next, ?_, standing.step foresees taken, ?_⟩
  · rw [runIn?, taken]
    rfl
  · rw [turns_append, if_pos isTurn]

/-- Whatever the start waits for can come. -/
theorem Standing.continues (standing : startup.Standing start moves controller)
    (pending : controller.call? start = some (.pending stage)) :
    startup.Continues start moves controller := by
  obtain ⟨entry, found, waits⟩ := pending?_of_call? pending
  have foresees := standing.foresees
  cases stage with
  | starting =>
      have answered : startup.Foresees start
          (moves ++ [.started start startup.started]) :=
        foresees.append (fun _ => rfl) rfl
      exact standing.turn answered rfl (by simp [stepIn?, step?, waits])
  | watching =>
      have answered : startup.Foresees start
          (moves ++ [.watched start startup.watched]) :=
        foresees.append (fun _ => rfl) rfl
      exact standing.turn answered rfl (by simp [stepIn?, step?, waits])
  | fetching =>
      have answered : startup.Foresees start
          (moves ++ [.fetched start startup.fetched]) :=
        foresees.append (fun _ => rfl) rfl
      exact standing.turn answered rfl
        (by simp [stepIn?_eq, Move.arranged, step?, waits])
  | opening run =>
      exact standing.turn foresees.append_linked rfl
        (by simp [stepIn?, step?, waits])
  | waiting run wakeTime =>
      -- The time to wake up has to come first.
      let later : Controller :=
        { controller with
          clock := controller.clock + (wakeTime - controller.clock) }
      have passed : startup.Standing start
          (moves ++ [.tick (wakeTime - controller.clock)]) later :=
        standing.step (foresees.append trivial rfl) rfl
      have elapsed : wakeTime ≤ later.clock := by
        change wakeTime ≤ controller.clock + (wakeTime - controller.clock)
        omega
      have stillWaits : later.pending? start =
          some (entry.attempt, .waiting run wakeTime) := waits
      have awake : startup.Foresees start
          (moves ++ [.tick (wakeTime - controller.clock)] ++
            [.woken start]) :=
        passed.foresees.append trivial rfl
      obtain ⟨rest, next, ran, stands, counted⟩ :=
        passed.turn awake rfl (by simp [stepIn?, step?, stillWaits, elapsed])
      rw [← List.append_cons] at stands counted
      refine ⟨.tick (wakeTime - controller.clock) :: rest, next, ran, stands,
        counted.trans ?_⟩
      rw [turns_append]
      rfl

theorem Comes.not_dropped {requests : List Deed} :
    ¬ startup.Comes ended turned .dropped requests :=
  nofun

theorem Comes.bounded {call : Call} {requests : List Deed}
    (comes : startup.Comes ended turned call requests) :
    turned ≤ 2 * startup.budget + 2 := by
  cases call with
  | pending => exact Nat.le_of_lt comes.bounded_of_pending
  | returned =>
      cases comes with
      | returned _ bounded => exact bounded
  | dropped => exact (Comes.not_dropped comes).elim

theorem Comes.leads {result : Except StartFailure Unit} {requests : List Deed}
    (comes : startup.Comes ended turned (.returned result) requests) :
    startup.Leads result requests := by
  cases comes with
  | returned leads => exact leads

/-- A start that has returned did so as its answers decide. -/
theorem Standing.leads (standing : startup.Standing start moves controller)
    {result : Except StartFailure Unit}
    (returned : controller.call? start = some (.returned result)) :
    startup.Leads result (controller.requestsOf start) := by
  obtain ⟨call, requests, comes, isCall, rfl⟩ := standing.stands
  rw [returned] at isCall
  cases isCall
  exact comes.leads

theorem Standing.call_cases
    (standing : startup.Standing start moves controller) :
    (∃ result, controller.call? start = some (.returned result)) ∨
      (∃ stage, controller.call? start = some (.pending stage)) ∧
        turns start moves < 2 * startup.budget + 2 := by
  obtain ⟨call, requests, comes, stands⟩ := standing.stands
  cases call with
  | returned result => exact .inl ⟨result, stands.call⟩
  | pending stage => exact .inr ⟨⟨stage, stands.call⟩, comes.bounded_of_pending⟩
  | dropped => exact (Comes.not_dropped comes).elim

/-- However far it has come, the start can come to its end. -/
theorem Standing.exists_end
    (standing : startup.Standing start moves controller) :
    ∃ rest last result, controller.runIn? startup.orders rest = some last ∧
      startup.Standing start (moves ++ rest) last ∧
      last.call? start = some (.returned result) := by
  obtain ⟨left, within⟩ :
      ∃ left, 2 * startup.budget + 2 ≤ turns start moves + left :=
    ⟨_, Nat.le_add_left ..⟩
  induction left generalizing moves controller with
  | zero =>
      rcases standing.call_cases with ⟨result, returned⟩ | ⟨-, further⟩
      · exact ⟨[], controller, result, rfl, by simpa using standing, returned⟩
      · omega
  | succ left induction =>
      rcases standing.call_cases with ⟨result, returned⟩ | ⟨⟨stage, pending⟩, -⟩
      · exact ⟨[], controller, result, rfl, by simpa using standing, returned⟩
      · obtain ⟨rest, next, ran, stands, counted⟩ :=
          standing.continues pending
        obtain ⟨more, last, result, ranMore, standsLast, returned⟩ :=
          induction stands (by omega)
        rw [List.append_assoc] at standsLast
        refine ⟨rest ++ more, last, result, ?_, standsLast, returned⟩
        rw [runIn?_append, ran]
        exact ranMore

end Startup

end WorkspaceStartup
