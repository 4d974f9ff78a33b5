import WorkspaceStartup.Proofs.Controller.Act

/-!
# Moves as acts

Every move is the beginning of a start, the passing of time, a message that
changes what is shown of a start, or a turn of a pending start: acts on its
behalf, and a change of its call at the end.  `follows_of_step?` says so, and
what acts and changes of a call keep is thereby kept by every move.
-/

namespace WorkspaceStartup

/-- The start on whose behalf a move is made, if it is one that has begun. -/
def Move.actor? (controller : Controller) : Move → Option Nat
  | .publish channel _ => (controller.bus.handler? channel).map (·.start)
  | .fire position _ => controller.bus.history[position]?.map (·.start)
  | .drop start | .started start _ | .watched start _ | .fetched start _
  | .linked start _ | .woken start | .withdrawn start => some start
  | .begin _ _ | .tick _ => none

namespace Controller

variable {controller middle next : Controller} {start : Nat} {attempt : Attempt}
  {move : Move}

theorem within_of_acts (acts : Acts start controller next) :
    Within start controller next := by
  induction acts with
  | refl => exact .refl start controller
  | tail _ last induction => exact induction.trans last.within

theorem acts_of_shows (shows : Showing start controller next) :
    Acts start controller next :=
  Relation.ReflTransGen.mono (fun _ _ => Act.shown) _ _ shows

theorem within_of_shows (shows : Showing start controller next) :
    Within start controller next :=
  within_of_acts (acts_of_shows shows)

/-! ## What the acts keep of a start -/

theorem map_changeStart {α : Type} (project : Start → α)
    (change : Start → Start)
    (keeps : ∀ entry, project (change entry) = project entry)
    (controller : Controller) (start other : Nat) :
    (controller.changeStart start change).starts[other]?.map project =
      controller.starts[other]?.map project := by
  rw [getElem?_changeStart]
  split
  · simp [Function.comp_def, keeps]
  · rfl

@[simp] theorem length_starts_putAttempt (state : Attempt × Bus Handler) :
    (controller.putAttempt start state).starts.length =
      controller.starts.length :=
  List.length_modify ..

theorem call?_putAttempt (state : Attempt × Bus Handler) (other : Nat) :
    (controller.putAttempt start state).call? other =
      controller.call? other := by
  refine map_changeStart (·.call) _ ?_ controller start other
  exact fun _ => rfl

theorem channels?_putAttempt (state : Attempt × Bus Handler) (other : Nat) :
    (controller.putAttempt start state).channels? other =
      if start = other then
        controller.starts[other]?.map fun _ => state.1.channels
      else controller.channels? other := by
  have elements := getElem?_changeStart controller start other fun entry =>
    { entry with attempt := state.1 }
  change ((controller.changeStart start _).starts[other]?).map _ = _
  rw [elements]
  split
  · simp [Function.comp_def]
  · rfl

theorem channels?_setCall (call : Call) (other : Nat) :
    (controller.setCall start call).channels? other =
      controller.channels? other := by
  refine map_changeStart (·.attempt.channels) _ ?_ controller start other
  exact fun _ => rfl

theorem call?_setCall (call : Call) (other : Nat) :
    (controller.setCall start call).call? other =
      if start = other then controller.starts[other]?.map fun _ => call
      else controller.call? other := by
  rw [call?, setCall, getElem?_changeStart]
  split
  · simp [Function.comp_def]
  · rfl

theorem eq_of_call?_setCall {call found : Call}
    (isFound : (controller.setCall start call).call? start = some found) :
    call = found := by
  rw [call?_setCall, if_pos rfl] at isFound
  obtain ⟨-, -, same⟩ := Option.map_eq_some_iff.mp isFound
  exact same

theorem Shows.channels?_eq (shows : Shows start controller next) (other : Nat) :
    next.channels? other = controller.channels? other := by
  cases shows with
  | advanced | logged | relogged | marked => rfl
  | reported =>
      refine map_changeStart (·.attempt.channels) _ ?_ controller start other
      exact fun _ => rfl

theorem Shows.bus_eq (shows : Shows start controller next) :
    next.bus = controller.bus := by
  cases shows with
  | advanced | logged | relogged | marked | reported => rfl

theorem Act.call?_eq (act : Act start controller next) (other : Nat) :
    next.call? other = controller.call? other := by
  cases act with
  | shown shows =>
      cases shows with
      | advanced | logged | relogged | marked => rfl
      | reported =>
          refine map_changeStart (·.call) _ ?_ controller start other
          exact fun _ => rfl
  | noted | tried => rfl
  | tornDown found =>
      rw [teardown_eq found]
      exact call?_putAttempt _ other
  | subscribed _ _ accepted =>
      obtain ⟨-, rfl⟩ := subscribeChannels?_eq_some_iff.mp accepted
      exact call?_putAttempt _ other

theorem call?_eq_of_acts (acts : Acts start controller next)
    (other : Nat) : next.call? other = controller.call? other := by
  induction acts with
  | refl => rfl
  | tail _ last induction => exact (last.call?_eq other).trans induction

theorem channels?_eq_of_shows
    (shows : Showing start controller next) (other : Nat) :
    next.channels? other = controller.channels? other := by
  induction shows with
  | refl => rfl
  | tail _ last induction => exact (last.channels?_eq other).trans induction

theorem Act.ofStartup (act : Act start controller next)
    (sound : controller.tracker.OfStartup) : next.tracker.OfStartup := by
  cases act with
  | shown shows =>
      cases shows with
      | advanced _ _ moved => exact sound.advance moved
      | logged _ _ added => exact sound.append added
      | relogged _ _ replaced => exact sound.replaceLog replaced
      | marked _ _ mark => exact sound.markFailed mark
      | reported => exact sound
  | noted | tried => exact sound
  | tornDown found =>
      rw [teardown_eq found]
      exact sound
  | subscribed _ _ accepted =>
      obtain ⟨-, rfl⟩ := subscribeChannels?_eq_some_iff.mp accepted
      exact sound

theorem ofStartup_of_acts (acts : Acts start controller next)
    (sound : controller.tracker.OfStartup) : next.tracker.OfStartup := by
  induction acts with
  | refl => exact sound
  | tail _ last induction => exact last.ofStartup induction

/-! ## Changes of what is shown -/

theorem Runs.owns_eq {entry : Start}
    (same : entry.attempt.bare = attempt.bare) :
    controller.owns entry.attempt = controller.owns attempt :=
  congrArg (fun attempt => controller.owns attempt.bare) same

theorem Runs.workspaceId_eq {other : Attempt}
    (runs : controller.Runs start attempt)
    (others : controller.Runs start other) :
    other.workspaceId = attempt.workspaceId := by
  obtain ⟨entry, found, same⟩ := runs
  obtain ⟨entry', found', same'⟩ := others
  rw [found] at found'
  cases found'
  exact congrArg (·.workspaceId) (same'.symm.trans same)

theorem shows_advance (runs : controller.Runs start attempt)
    (owned : controller.owns attempt = true) (step : Nat) :
    Showing start controller
      (controller.advance start attempt.workspaceId step) := by
  unfold advance
  split
  · next moved => exact .single (.advanced runs owned moved)
  · exact .refl

theorem shows_logLine (runs : controller.Runs start attempt)
    (owned : controller.owns attempt = true) (step : Nat) (line : String) :
    Showing start controller
      (controller.logLine start attempt.workspaceId step line) := by
  unfold logLine
  split
  · next added => exact .single (.logged runs owned added)
  · exact .refl

theorem shows_replaceLog (runs : controller.Runs start attempt)
    (owned : controller.owns attempt = true)
    (unanswered : controller.Unanswered start)
    (step : Nat) (line : String) :
    Showing start controller
      (controller.replaceLog start attempt.workspaceId step line) := by
  unfold replaceLog
  split
  · next replaced => exact .single (.relogged runs owned replaced unanswered)
  · exact .refl

theorem shows_markFailed (runs : controller.Runs start attempt)
    (owned : controller.owns attempt = true) (step : Nat) :
    Showing start controller
      (controller.markFailed start attempt.workspaceId step) := by
  unfold markFailed
  split
  · next mark => exact .single (.marked runs owned mark)
  · exact .refl

/-- Two changes of what is shown, the second of which needs the progress too. -/
theorem shows_trans (runs : controller.Runs start attempt)
    (owned : controller.owns attempt = true)
    (first : Showing start controller middle)
    (second : middle.Runs start attempt → middle.owns attempt = true →
      Showing start middle next) :
    Showing start controller next := by
  have within := within_of_shows first
  exact first.trans
    (second (within.runs runs) ((within.owns_eq attempt).trans owned))

theorem shows_flagCurrent (runs : controller.Runs start attempt)
    (owned : controller.owns attempt = true) (line : String) :
    Showing start controller
      (controller.flagCurrent start attempt.workspaceId line) :=
  shows_trans runs owned (shows_markFailed runs owned _) fun runs owned =>
    shows_logLine runs owned _ line

theorem shows_flagAndReplace (runs : controller.Runs start attempt)
    (owned : controller.owns attempt = true)
    (unanswered : controller.Unanswered start)
    (line : String) :
    Showing start controller
      (controller.flagAndReplace start attempt.workspaceId line) := by
  have marks := shows_markFailed runs owned controller.tracker.current
  have stays := call?_eq_of_acts (acts_of_shows marks) start
  exact shows_trans runs owned marks fun runs owned =>
    shows_replaceLog runs owned (stays.trans unanswered) _ line

theorem shows_report (runs : controller.Runs start attempt)
    (owned : controller.owns attempt = true) (report : Report) :
    Showing start controller (controller.report start report) := by
  obtain ⟨entry, found, same⟩ := runs
  simp only [Controller.report, found]
  split
  · exact .refl
  · next unreported =>
      exact .single (.reported report found
        ((Runs.owns_eq same).trans owned) (by simpa using unreported))

theorem shows_onStatus (runs : controller.Runs start attempt) (body : String) :
    Showing start controller (controller.onStatus start attempt body) := by
  simp only [onStatus, Bool.and_eq_true]
  split
  · next applies =>
      exact shows_trans runs applies.2 (shows_flagCurrent runs applies.2 _)
        fun runs owned => shows_report runs owned _
  · exact .refl

theorem shows_onAgent (runs : controller.Runs start attempt) (body : String) :
    Showing start controller (controller.onAgent start attempt body) := by
  simp only [onAgent]
  split
  · next owned =>
      have logged := shows_trans runs owned
        (shows_advance runs owned Tracker.agentStep) fun runs owned =>
          shows_logLine runs owned Tracker.agentStep
            (ChannelMessage.parse .agent body).displayLine
      split
      · exact shows_trans runs owned logged fun runs owned =>
          shows_trans runs owned (shows_markFailed runs owned _)
            fun runs owned => shows_report runs owned _
      · exact logged
  · exact .refl

theorem shows_onOutput (runs : controller.Runs start attempt) (body : String) :
    Showing start controller (controller.onOutput start attempt body) := by
  simp only [onOutput]
  split
  · next owned => exact shows_logLine runs owned _ _
  · exact .refl

theorem shows_handle {entry : Start} {handler : Handler}
    (found : controller.starts[handler.start]? = some entry) (body : String) :
    Showing handler.start controller (controller.handle handler body) := by
  have runs : controller.Runs handler.start entry.attempt := ⟨entry, found, rfl⟩
  simp only [handle, found]
  split
  · exact shows_onStatus runs body
  · exact shows_onAgent runs body
  · exact shows_onOutput runs body

/-! ## Turns of a pending start -/

/-- Acts on behalf of a start, and a change of its call at the end. -/
def Carries (start : Nat) (controller next : Controller) : Prop :=
  ∃ middle, Acts start controller middle ∧ CallChange start middle next

theorem Carries.after (carries : Carries start middle next)
    (acts : Acts start controller middle) : Carries start controller next := by
  obtain ⟨last, later, change⟩ := carries
  exact ⟨last, acts.trans later, change⟩

theorem carries_of_change (change : CallChange start controller next) :
    Carries start controller next :=
  ⟨controller, .refl, change⟩

theorem acts_enter (runs : controller.Runs start attempt) (deed : Deed)
    (quiet : deed.Quiet) :
    Acts start controller (controller.enter start deed) :=
  .single (.noted deed runs quiet)

theorem acts_teardown (runs : controller.Runs start attempt) :
    Acts start controller (controller.teardown start) := by
  obtain ⟨entry, found, -⟩ := runs
  exact .single (.tornDown found)

theorem channels?_teardown (runs : controller.Runs start attempt) :
    (controller.teardown start).channels? start = some [] := by
  obtain ⟨entry, found, -⟩ := runs
  simp [teardown_eq found, channels?, putAttempt, getElem?_changeStart, found,
    Attempt.teardown]

theorem reported?_report (runs : controller.Runs start attempt)
    (report : Report) :
    (controller.report start report).reported? start = some true := by
  obtain ⟨entry, found, -⟩ := runs
  simp only [Controller.report, found]
  split
  · next reported => simp [reported?, found, reported]
  · simp [reported?, enter, getElem?_changeStart, found]

theorem tracker_report (start : Nat) (report : Report) :
    (controller.report start report).tracker = controller.tracker := by
  unfold Controller.report
  split
  · rfl
  · split <;> rfl

theorem showsFailure_flagCurrent (id : WorkspaceId) (line : String)
    (inRange : controller.tracker.current < controller.tracker.steps.length) :
    (controller.flagCurrent start id line).tracker.ShowsFailure line := by
  obtain ⟨marked, logged, mark, log, shown⟩ :=
    Tracker.exists_showsFailure (fun entry => entry.append line) line inRange
      (fun _ => rfl) fun entry => entry.append_endsWith line
  simpa [flagCurrent, markFailed, mark, logLine, Tracker.append, announce, enter,
    log] using shown

theorem showsFailure_flagAndReplace (id : WorkspaceId) (line : String)
    (inRange : controller.tracker.current < controller.tracker.steps.length) :
    (controller.flagAndReplace start id line).tracker.ShowsFailure line := by
  obtain ⟨marked, logged, mark, log, shown⟩ :=
    Tracker.exists_showsFailure (fun entry => { entry with logs := line }) line
      inRange (fun _ => rfl) fun _ => .inl rfl
  simpa [flagAndReplace, markFailed, mark, replaceLog, Tracker.replaceLog,
    announce, enter, log] using shown

theorem shows_flagFailure {failure : StartFailure}
    (runs : controller.Runs start attempt)
    (owned : controller.owns attempt = true)
    (unanswered : ∀ cause, failure = .requestRejected cause →
      controller.Unanswered start) :
    Showing start controller
      (controller.flagFailure start attempt.workspaceId failure) := by
  unfold flagFailure
  split
  · next cause =>
      exact shows_flagAndReplace runs owned (unanswered cause rfl) rejectedLine
  · exact shows_flagCurrent runs owned _

theorem showsFailure_flagFailure (id : WorkspaceId) (failure : StartFailure)
    (sound : controller.tracker.OfStartup) :
    (controller.flagFailure start id failure).tracker.ShowsFailure
      failure.failureLine := by
  cases failure with
  | requestRejected => exact showsFailure_flagAndReplace id _ sound.current
  | remote | detailsUnavailable | watchFailed | endpointUnavailable
  | connectionExhausted | superseded =>
      exact showsFailure_flagCurrent id _ sound.current

theorem carries_fail {failure : StartFailure}
    (runs : controller.Runs start attempt)
    (sound : controller.tracker.OfStartup)
    (unanswered : ∀ cause, failure = .requestRejected cause →
      controller.Unanswered start)
    (late : failure.isSuperseded = true →
      controller.isCurrent attempt = false) :
    Carries start controller (controller.fail start attempt failure) := by
  have torn := acts_teardown runs
  have quiet := within_of_acts torn
  have empty := channels?_teardown runs
  have quietRuns := quiet.runs runs
  simp only [fail, Bool.or_eq_true, Bool.not_eq_true']
  split
  · next ended =>
      refine (carries_of_change (.yields quietRuns ?_ empty)).after torn
      rcases ended with superseded | disowned
      · exact .inl ((quiet.isCurrent_eq attempt).trans (late superseded))
      · exact .inr disowned
  · next ended =>
      -- Reporting comes after flagging and does not change what is shown.
      simp only [not_or, Bool.not_eq_true, Bool.not_eq_false] at ended
      obtain ⟨final, owned⟩ := ended
      have shows := shows_flagFailure quietRuns owned fun cause rejected =>
        (call?_eq_of_acts torn start).trans (unanswered cause rejected)
      have flaggedWithin := within_of_shows shows
      have flaggedRuns := flaggedWithin.runs quietRuns
      have flaggedOwned := (flaggedWithin.owns_eq attempt).trans owned
      have reports := shows_report flaggedRuns flaggedOwned
        ⟨failure.phase, failure.shown⟩
      have reportWithin := within_of_shows reports
      have acts := torn.trans (acts_of_shows (shows.trans reports))
      refine (carries_of_change (.fails (reportWithin.runs flaggedRuns) ?_ final
        ?_ (reported?_report flaggedRuns _) ?_)).after acts
      · exact (reportWithin.owns_eq attempt).trans flaggedOwned
      · exact (channels?_eq_of_shows (shows.trans reports) start).trans empty
      · rw [tracker_report]
        exact showsFailure_flagFailure _ _ (ofStartup_of_acts torn sound)

theorem carries_succeed {url : String} (runs : controller.Runs start attempt)
    (empty : controller.channels? start = some []) :
    Carries start controller (controller.succeed start attempt url) := by
  have closed : Acts start controller (controller.enter start (.closed url)) :=
    acts_enter runs _ ⟨rfl, rfl, rfl⟩
  have closedRuns := (within_of_acts closed).runs runs
  simp only [succeed]
  split
  · next owned =>
      have advances := shows_advance closedRuns owned Tracker.startedStep
      have within := within_of_shows advances
      refine (carries_of_change (.succeeds url (within.runs closedRuns)
        ((within.owns_eq attempt).trans owned) ?_)).after
          (closed.trans (acts_of_shows advances))
      exact (channels?_eq_of_shows advances start).trans empty
  · next disowned =>
      have torn := acts_teardown closedRuns
      have within := within_of_acts torn
      refine (carries_of_change (.yields (within.runs closedRuns) (.inr ?_)
        (channels?_teardown closedRuns))).after (closed.trans torn)
      exact (within.owns_eq attempt).trans (by simpa using disowned)

/-- A turn of the connection run, which tries the link only for an attempt
that is current, and is cancelled only for one that is not. -/
theorem carries_takeTurn {turn : Reconnect.Turn}
    (runs : controller.Runs start attempt)
    (sound : controller.tracker.OfStartup)
    (tries : ∀ run, turn = .opening run → controller.isCurrent attempt = true)
    (cancels : turn = .cancelled → controller.isCurrent attempt = false) :
    Carries start controller (controller.takeTurn start attempt turn) := by
  cases turn with
  | opening run =>
      exact (carries_of_change (.waits (.opening run) nofun)).after
        (.single (.tried run runs (tries run rfl)))
  | waiting run => exact carries_of_change (.waits _ nofun)
  | connected url =>
      have connects : Acts start controller
          (controller.enter start (.connected url)) :=
        acts_enter runs _ ⟨rfl, rfl, rfl⟩
      have connectedRuns := (within_of_acts connects).runs runs
      have torn := acts_teardown connectedRuns
      exact (carries_succeed ((within_of_acts torn).runs connectedRuns)
        (channels?_teardown connectedRuns)).after (connects.trans torn)
  | exhausted attempts last =>
      have torn := acts_teardown runs
      refine (carries_fail ((within_of_acts torn).runs runs)
        (ofStartup_of_acts torn sound) ?_ ?_).after torn
      · nofun
      · intro superseded
        cases superseded
  | cancelled =>
      change Carries start controller
        (controller.fail start attempt (.ofConnect .cancelled))
      exact carries_fail runs sound nofun fun _ => cancels rfl

theorem carries_onStarted {entry : Start}
    (found : controller.starts[start]? = some entry)
    (pending : entry.call = .pending .starting)
    (sound : controller.tracker.OfStartup)
    (answer : Except ControlFailure StartResult) :
    Carries start controller
      (controller.onStarted start entry.attempt answer) := by
  have runs : controller.Runs start entry.attempt := ⟨entry, found, rfl⟩
  cases answer with
  | error cause =>
      refine carries_fail runs sound (fun _ _ => ?_) ?_
      · exact (call?_of_found found).trans (congrArg some pending)
      · intro superseded
        cases superseded
  | ok result =>
      simp only [onStarted]
      split
      · next refused =>
          refine carries_fail runs sound ?_ fun _ => ?_
          · intro cause rejected
            cases rejected
          · unfold subscribeChannels? at refused
            split at refused
            · cases refused
            · next stale => simpa using stale
      · next subscribed accepted =>
          have subscribes : Acts start controller subscribed :=
            .single (.subscribed found pending accepted)
          have subscribedRuns := (within_of_acts subscribes).runs runs
          have asks := acts_enter subscribedRuns
            (.askedStatus entry.attempt.workspaceId .running)
            ⟨rfl, rfl, rfl⟩
          have asksAgain := acts_enter
            ((within_of_acts asks).runs subscribedRuns)
            (.askedStatus entry.attempt.workspaceId .error)
            ⟨rfl, rfl, rfl⟩
          have later : Stage.watching ≠ .starting := by decide
          exact (carries_of_change (.waits .watching later)).after
            ((subscribes.trans asks).trans asksAgain)

theorem carries_onWatched (runs : controller.Runs start attempt)
    (sound : controller.tracker.OfStartup)
    (answer : Except ControlFailure StatusChange) :
    Carries start controller (controller.onWatched start attempt answer) := by
  cases answer with
  | error cause =>
      refine carries_fail runs sound nofun ?_
      intro superseded
      cases superseded
  | ok change =>
      simp only [onWatched]
      split
      · refine carries_fail runs sound nofun ?_
        intro superseded
        cases superseded
      · exact (carries_of_change (.waits .fetching nofun)).after
          (acts_enter runs _ ⟨rfl, rfl, rfl⟩)

/-- A run goes on to try the link if its attempt is current, and is cancelled
otherwise. -/
theorem carries_proceed (runs : controller.Runs start attempt)
    (sound : controller.tracker.OfStartup) (run : Reconnect) :
    Carries start controller (controller.takeTurn start attempt
      (run.proceed (controller.isCurrent attempt))) := by
  refine carries_takeTurn runs sound ?_ ?_
  · intro opened proceeds
    cases current : controller.isCurrent attempt with
    | true => rfl
    | false => simp [Reconnect.proceed, current] at proceeds
  · intro proceeds
    cases current : controller.isCurrent attempt with
    | true => simp [Reconnect.proceed, current] at proceeds
    | false => rfl

theorem carries_onFetched (runs : controller.Runs start attempt)
    (sound : controller.tracker.OfStartup)
    (answer : Except ControlFailure Workspace) :
    Carries start controller (controller.onFetched start attempt answer) := by
  cases answer with
  | error cause =>
      refine carries_fail runs sound nofun ?_
      intro superseded
      cases superseded
  | ok workspace =>
      simp only [onFetched]
      split
      · next current =>
          split
          · next url _ =>
              have proceeds :=
                carries_proceed runs sound (Reconnect.new url attempt.budget)
              rwa [current] at proceeds
          · refine carries_fail runs sound nofun ?_
            intro superseded
            cases superseded
      · next stale =>
          exact carries_fail runs sound nofun fun _ => by simpa using stale

theorem carries_settle (runs : controller.Runs start attempt)
    (sound : controller.tracker.OfStartup) (run : Reconnect)
    (outcome : Except LinkFailure Unit) :
    Carries start controller
      (controller.takeTurn start attempt (run.settle outcome)) := by
  cases outcome with
  | ok => exact carries_takeTurn runs sound nofun nofun
  | error failure =>
      simp only [Reconnect.settle]
      split
      · exact carries_takeTurn runs sound nofun nofun
      · exact carries_takeTurn runs sound nofun nofun

/-! ## Moves -/

/-- What a move can lead to. -/
inductive Follows (controller : Controller) : Move → Controller → Prop
  | begun (id : WorkspaceId) (environment : String) :
      Follows controller (.begin id environment)
        (controller.begin id environment)
  | passed (milliseconds : Nat) :
      Follows controller (.tick milliseconds)
        { controller with clock := controller.clock + milliseconds }
  | unheard {move : Move} (nobody : move.actor? controller = none) :
      Follows controller move controller
  | heard {move : Move} {start : Nat} {next : Controller}
      (actor : move.actor? controller = some start)
      (shows : Showing start controller next) : Follows controller move next
  | carried {move : Move} {start : Nat} {stage : Stage} {next : Controller}
      (actor : move.actor? controller = some start)
      (pending : controller.call? start = some (.pending stage))
      (carries : Carries start controller next) : Follows controller move next

/-- What is done on behalf of a start stays within it. -/
theorem Follows.within (follows : controller.Follows move next)
    (actor : move.actor? controller = some start) :
    Within start controller next := by
  cases follows with
  | begun | passed => cases actor
  | unheard => exact .refl start controller
  | heard actor' shows =>
      cases actor.symm.trans actor'
      exact within_of_shows shows
  | carried actor' _ carries =>
      cases actor.symm.trans actor'
      obtain ⟨middle, acts, change⟩ := carries
      exact (within_of_acts acts).trans change.within

theorem pending?_eq_some_iff {stage : Stage} :
    controller.pending? start = some (attempt, stage) ↔
      ∃ entry, controller.starts[start]? = some entry ∧
        entry.attempt = attempt ∧ entry.call = .pending stage := by
  unfold pending?
  split
  · next entry found =>
      split
      · next pending => simp [found, pending]
      · next other =>
          constructor
          · intro impossible
            cases impossible
          · rintro ⟨found', sameEntry, -, pending⟩
            cases found.symm.trans sameEntry
            exact (other stage pending).elim
  · next missing => simp [missing]

theorem follows_of_pending {stage : Stage}
    (actor : move.actor? controller = some start)
    (pending : controller.pending? start = some (attempt, stage))
    (carries : ∀ entry, controller.starts[start]? = some entry →
      entry.attempt = attempt → entry.call = .pending stage →
      Carries start controller next) :
    Follows controller move next := by
  obtain ⟨entry, found, sameAttempt, call⟩ := pending?_eq_some_iff.mp pending
  have waits : controller.call? start = some (.pending stage) :=
    (call?_of_found found).trans (congrArg some call)
  exact .carried actor waits (carries entry found sameAttempt call)

theorem follows_handle {handler : Handler}
    (actor : move.actor? controller = some handler.start) (body : String) :
    Follows controller move (controller.handle handler body) := by
  cases found : controller.starts[handler.start]? with
  | none =>
      simp only [handle, found]
      exact .heard actor .refl
  | some entry => exact .heard actor (shows_handle found body)

/-- A move of a controller whose progress is sound does nothing but what
`Follows` lists. -/
theorem follows_of_step? (sound : controller.tracker.OfStartup)
    (taken : controller.step? move = some next) :
    Follows controller move next := by
  cases move with
  | begin id environment =>
      cases taken
      exact .begun id environment
  | tick milliseconds =>
      cases taken
      exact .passed milliseconds
  | publish channel body =>
      cases taken
      unfold publish
      split
      · next handler served =>
          exact follows_handle (by simp [Move.actor?, served]) body
      · next unserved => exact .unheard (by simp [Move.actor?, unserved])
  | fire position body =>
      cases taken
      unfold fire
      split
      · next handler known =>
          exact follows_handle (by simp [Move.actor?, known]) body
      · next unknown => exact .unheard (by simp [Move.actor?, unknown])
  | drop start =>
      simp only [step?, bind, Option.bind_eq_some_iff] at taken
      obtain ⟨⟨attempt, stage⟩, pending, equality⟩ := taken
      cases equality
      exact follows_of_pending rfl pending fun _ _ _ _ =>
        carries_of_change .leaves
  | started start answer =>
      simp only [step?] at taken
      split at taken
      · next attempt pending =>
          cases taken
          refine follows_of_pending rfl pending ?_
          rintro entry found rfl call
          exact carries_onStarted found call sound answer
      · cases taken
  | watched start answer =>
      simp only [step?] at taken
      split at taken
      · next attempt pending =>
          cases taken
          refine follows_of_pending rfl pending ?_
          rintro entry found rfl -
          exact carries_onWatched ⟨entry, found, rfl⟩ sound answer
      · cases taken
  | fetched start answer =>
      simp only [step?] at taken
      split at taken
      · next attempt pending =>
          cases taken
          refine follows_of_pending rfl pending ?_
          rintro entry found rfl -
          exact carries_onFetched ⟨entry, found, rfl⟩ sound answer
      · cases taken
  | linked start outcome =>
      simp only [step?] at taken
      split at taken
      · next attempt run pending =>
          cases taken
          refine follows_of_pending rfl pending ?_
          rintro entry found rfl -
          exact carries_settle ⟨entry, found, rfl⟩ sound run outcome
      · cases taken
  | woken start =>
      simp only [step?] at taken
      split at taken
      · next attempt run wakeTime pending =>
          split at taken
          · cases taken
            refine follows_of_pending rfl pending ?_
            rintro entry found rfl -
            exact carries_proceed ⟨entry, found, rfl⟩ sound run
          · cases taken
      · cases taken
  | withdrawn start =>
      simp only [step?] at taken
      split at taken
      · cases taken
      · next attempt stage _ pending =>
          split at taken
          · next cancelled =>
              cases taken
              refine follows_of_pending rfl pending ?_
              rintro entry found rfl -
              refine carries_fail ⟨entry, found, rfl⟩ sound nofun fun _ => ?_
              simp [isCurrent, Attempt.isCurrent, cancelled]
          · cases taken
      · cases taken

end Controller

end WorkspaceStartup
