import WorkspaceStartup.Proofs.Controller.Course
import WorkspaceStartup.Proofs.Journal

/-!
# A start among others and the same start alone

Two controllers mirror each other if one has a start at the end of others and
the other has the same start alone: they differ in the numbers of the starts,
in the generations, and in what the past has left in the journal.  Every
operation on behalf of the start keeps them so, since it does the same to both.
-/

namespace WorkspaceStartup

/-! ## Behind earlier starts -/

def Attempt.behind (earlier : Nat) (attempt : Attempt) : Attempt :=
  { attempt with generation := earlier + attempt.generation }

def Start.behind (earlier : Nat) (start : Start) : Start :=
  { start with attempt := start.attempt.behind earlier }

def Handler.behind (earlier : Nat) (handler : Handler) : Handler :=
  { handler with start := earlier + handler.start }

def Entry.behind (earlier : Nat) (entry : Entry) : Entry :=
  { entry with start := earlier + entry.start }

/-- The subscriptions of a bus after those of the past are the same as those of
a bus without a past. -/
structure Bus.Mirrors (earlier : Nat) (past : List Handler)
    (among alone : Bus Handler) : Prop where
  handlers : ∀ channel, among.handler? channel =
    (alone.handler? channel).map (Handler.behind earlier)
  history : among.history = past ++ alone.history.map (Handler.behind earlier)

namespace Bus.Mirrors

variable {earlier : Nat} {past : List Handler} {among alone : Bus Handler}

theorem foldl_unsubscribe (mirrors : Bus.Mirrors earlier past among alone)
    (channels : List String) :
    Bus.Mirrors earlier past (channels.foldl Bus.unsubscribe among)
      (channels.foldl Bus.unsubscribe alone) where
  handlers := by
    intro channel
    rw [Bus.handler?_foldl_unsubscribe, Bus.handler?_foldl_unsubscribe]
    split
    · rfl
    · exact mirrors.handlers channel
  history := by
    rw [Bus.history_foldl_unsubscribe, Bus.history_foldl_unsubscribe]
    exact mirrors.history

theorem subscribe (mirrors : Bus.Mirrors earlier past among alone)
    (channel : String) (handler : Handler) :
    Bus.Mirrors earlier past
      (among.subscribe channel (handler.behind earlier))
      (alone.subscribe channel handler) where
  handlers := by
    intro other
    rw [Bus.handler?_subscribe, Bus.handler?_subscribe]
    split
    · rfl
    · exact mirrors.handlers other
  history := by simp [Bus.subscribe, mirrors.history]

end Bus.Mirrors

namespace Attempt

variable {earlier : Nat} {past : List Handler} {among alone : Bus Handler}

theorem subscribe_behind (attempt : Attempt) (among alone : Bus Handler)
    (channel : String) (handler : Handler) :
    (attempt.behind earlier).subscribe among channel (handler.behind earlier) =
      (attempt.subscribe alone channel handler).map fun state =>
        (state.1.behind earlier,
          among.subscribe channel (handler.behind earlier)) := by
  unfold subscribe
  split
  · rfl
  · change (if attempt.holds channel = true then _ else _) = _
    split <;> rfl

/-- Of the same offers, the same are accepted on both buses. -/
theorem subscribeEach_behind (attempt : Attempt)
    (mirrors : Bus.Mirrors earlier past among alone)
    (offers : List (String × Handler)) :
    let later := offers.map fun offer => (offer.1, offer.2.behind earlier)
    ((attempt.behind earlier).subscribeEach among later).1 =
        (attempt.subscribeEach alone offers).1.behind earlier ∧
      Bus.Mirrors earlier past
        ((attempt.behind earlier).subscribeEach among later).2
        (attempt.subscribeEach alone offers).2 := by
  induction offers generalizing attempt among alone with
  | nil => exact ⟨rfl, mirrors⟩
  | cons offer others induction =>
      simp only [List.map_cons, subscribeEach,
        subscribe_behind attempt among alone offer.1 offer.2]
      cases accepted : attempt.subscribe alone offer.1 offer.2 with
      | error => exact induction attempt mirrors
      | ok after =>
          obtain ⟨-, -, rfl⟩ := subscribe_eq_ok_iff.mp accepted
          exact induction _ (mirrors.subscribe offer.1 offer.2)

end Attempt

namespace Controller

theorem advertised_behind (earlier : Nat) (id : WorkspaceId)
    (links : List Link) :
    advertised earlier id links =
      (advertised 0 id links).map fun offer =>
        (offer.1, offer.2.behind earlier) := by
  simp [advertised, Handler.behind, Option.toList_map, Function.comp_def]

/-- A start stands at the end of others in one controller, and alone in the
other; what the past has left on the bus and in the journal is given. -/
structure Mirrors (start : Nat) (handlers : List Handler) (past : List Entry)
    (among alone : Controller) : Prop where
  config : among.config = alone.config
  generation : among.generation = start + alone.generation
  stamp : among.stamp = start + alone.stamp
  tracker : among.tracker = alone.tracker
  clock : among.clock = alone.clock
  last : among.starts.length = start + 1
  only : alone.starts.length = 1
  record : among.starts[start]? = alone.starts[0]?.map (Start.behind start)
  bus : Bus.Mirrors start handlers among.bus alone.bus
  own : Entry.ofStart start among.journal =
    alone.journal.map (Entry.behind start)
  events : Entry.events among.journal =
    Entry.events alone.journal ++ Entry.events past
  reports : Entry.reports among.journal =
    Entry.reports alone.journal ++ Entry.reports past
  openings : Entry.openings among.journal =
    Entry.openings alone.journal ++ Entry.openings past

/-- The same decision leads to controllers that mirror each other. -/
theorem mirrors_ite {start : Nat} {handlers : List Handler} {past : List Entry}
    {yes no yesAlone noAlone : Controller} {condition : Bool}
    (decided : Mirrors start handlers past yes yesAlone)
    (otherwise : Mirrors start handlers past no noAlone) :
    Mirrors start handlers past (if condition = true then yes else no)
      (if condition = true then yesAlone else noAlone) := by
  cases condition with
  | false => exact otherwise
  | true => exact decided

namespace Mirrors

variable {start : Nat} {handlers : List Handler} {past : List Entry}
  {among alone : Controller} (mirrors : Mirrors start handlers past among alone)

include mirrors

theorem enter (deed : Deed) :
    Mirrors start handlers past (among.enter start deed)
      (alone.enter 0 deed) :=
  { mirrors with
    own := by
      rw [Controller.enter, Entry.ofStart_cons, if_pos rfl, mirrors.own,
        mirrors.clock]
      rfl
    events := by
      rw [Controller.enter, Controller.enter, Entry.events_cons,
        Entry.events_cons, mirrors.events, List.append_assoc]
    reports := by
      rw [Controller.enter, Controller.enter, Entry.reports_cons,
        Entry.reports_cons, mirrors.reports, List.append_assoc]
    openings := by
      rw [Controller.enter, Controller.enter, Entry.openings_cons,
        Entry.openings_cons, mirrors.openings, mirrors.clock,
        List.append_assoc] }

theorem announce (event : Event) :
    Mirrors start handlers past (among.announce start event)
      (alone.announce 0 event) :=
  mirrors.enter (.announced event)

theorem setTracker (tracker : Tracker) :
    Mirrors start handlers past { among with tracker := tracker }
      { alone with tracker := tracker } :=
  { mirrors with tracker := rfl }

theorem changeStart {change changeAlone : Start → Start}
    (same : ∀ entry, change (entry.behind start) =
      (changeAlone entry).behind start) :
    Mirrors start handlers past (among.changeStart start change)
      (alone.changeStart 0 changeAlone) :=
  { mirrors with
    last := (List.length_modify ..).trans mirrors.last
    only := (List.length_modify ..).trans mirrors.only
    record := by
      rw [getElem?_changeStart, getElem?_changeStart, if_pos rfl, if_pos rfl,
        mirrors.record, Option.map_map, Option.map_map]
      congr 1
      funext entry
      exact same entry }

theorem setCall (call : Call) :
    Mirrors start handlers past (among.setCall start call)
      (alone.setCall 0 call) :=
  mirrors.changeStart fun _ => rfl

theorem putAttempt (attempt : Attempt) {bus busAlone : Bus Handler}
    (busMirrors : Bus.Mirrors start handlers bus busAlone) :
    Mirrors start handlers past
      (among.putAttempt start (attempt.behind start, bus))
      (alone.putAttempt 0 (attempt, busAlone)) := by
  have changed : Mirrors start handlers past
      (among.changeStart start fun entry =>
        { entry with attempt := attempt.behind start })
      (alone.changeStart 0 fun entry => { entry with attempt := attempt }) :=
    mirrors.changeStart fun _ => rfl
  exact { changed with bus := busMirrors }

theorem owns_behind (attempt : Attempt) :
    among.owns (attempt.behind start) = alone.owns attempt := by
  rw [Bool.eq_iff_iff]
  simp [owns, mirrors.stamp, Attempt.behind]

theorem isCurrent_behind (attempt : Attempt) :
    among.isCurrent (attempt.behind start) = alone.isCurrent attempt := by
  rw [Bool.eq_iff_iff]
  simp [Controller.isCurrent, Attempt.isCurrent, mirrors.generation,
    Attempt.behind]

theorem teardown :
    Mirrors start handlers past (among.teardown start) (alone.teardown 0) := by
  unfold Controller.teardown
  rw [mirrors.record]
  cases alone.starts[0]? with
  | none => exact mirrors
  | some entry =>
      exact mirrors.putAttempt entry.attempt.bare
        (mirrors.bus.foldl_unsubscribe entry.attempt.channels)

/-! ## What is shown -/

theorem advance (id : WorkspaceId) (step : Nat) :
    Mirrors start handlers past (among.advance start id step)
      (alone.advance 0 id step) := by
  unfold Controller.advance
  rw [mirrors.tracker]
  cases alone.tracker.advance step with
  | none => exact mirrors
  | some tracker => exact (mirrors.setTracker tracker).announce _

theorem logLine (id : WorkspaceId) (step : Nat) (line : String) :
    Mirrors start handlers past (among.logLine start id step line)
      (alone.logLine 0 id step line) := by
  unfold Controller.logLine
  rw [mirrors.tracker]
  cases alone.tracker.append step line with
  | none => exact mirrors
  | some tracker => exact (mirrors.setTracker tracker).announce _

theorem replaceLog (id : WorkspaceId) (step : Nat) (line : String) :
    Mirrors start handlers past (among.replaceLog start id step line)
      (alone.replaceLog 0 id step line) := by
  unfold Controller.replaceLog
  rw [mirrors.tracker]
  cases alone.tracker.replaceLog step line with
  | none => exact mirrors
  | some tracker => exact (mirrors.setTracker tracker).announce _

theorem markFailed (id : WorkspaceId) (step : Nat) :
    Mirrors start handlers past (among.markFailed start id step)
      (alone.markFailed 0 id step) := by
  unfold Controller.markFailed
  rw [mirrors.tracker]
  cases alone.tracker.markFailed step with
  | none => exact mirrors
  | some tracker => exact (mirrors.setTracker tracker).announce _

theorem flagCurrent (id : WorkspaceId) (line : String) :
    Mirrors start handlers past (among.flagCurrent start id line)
      (alone.flagCurrent 0 id line) := by
  unfold Controller.flagCurrent
  rw [mirrors.tracker]
  exact (mirrors.markFailed id _).logLine id _ line

theorem flagAndReplace (id : WorkspaceId) (line : String) :
    Mirrors start handlers past (among.flagAndReplace start id line)
      (alone.flagAndReplace 0 id line) := by
  unfold Controller.flagAndReplace
  rw [mirrors.tracker]
  exact (mirrors.markFailed id _).replaceLog id _ line

theorem flagFailure (id : WorkspaceId) (failure : StartFailure) :
    Mirrors start handlers past (among.flagFailure start id failure)
      (alone.flagFailure 0 id failure) := by
  cases failure with
  | requestRejected => exact mirrors.flagAndReplace id rejectedLine
  | remote | detailsUnavailable | watchFailed | endpointUnavailable
  | connectionExhausted | superseded => exact mirrors.flagCurrent id _

theorem report (report : Report) :
    Mirrors start handlers past (among.report start report)
      (alone.report 0 report) := by
  unfold Controller.report
  rw [mirrors.record]
  cases alone.starts[0]? with
  | none => exact mirrors
  | some entry =>
      simp only [Option.map_some]
      change Mirrors start handlers past
        (if entry.reported = true then among else _) _
      split
      · exact mirrors
      · refine (mirrors.changeStart ?_).enter _
        exact fun _ => rfl

/-! ## Messages -/

theorem onStatus (attempt : Attempt) (body : String) :
    Mirrors start handlers past
      (among.onStatus start (attempt.behind start) body)
      (alone.onStatus 0 attempt body) := by
  simp only [Controller.onStatus, mirrors.owns_behind]
  exact mirrors_ite ((mirrors.flagCurrent _ _).report _) mirrors

theorem onAgent (attempt : Attempt) (body : String) :
    Mirrors start handlers past
      (among.onAgent start (attempt.behind start) body)
      (alone.onAgent 0 attempt body) := by
  simp only [Controller.onAgent, mirrors.owns_behind]
  have logged := (mirrors.advance attempt.workspaceId Tracker.agentStep).logLine
    attempt.workspaceId Tracker.agentStep
    (ChannelMessage.parse .agent body).displayLine
  have failed := (logged.markFailed attempt.workspaceId Tracker.agentStep).report
    ⟨.agentStart, Phase.agentStart.title ++ ": " ++
      (ChannelMessage.parse .agent body).error.getD
        (ChannelMessage.parse .agent body).displayLine⟩
  exact mirrors_ite (mirrors_ite failed logged) mirrors

theorem onOutput (attempt : Attempt) (body : String) :
    Mirrors start handlers past
      (among.onOutput start (attempt.behind start) body)
      (alone.onOutput 0 attempt body) := by
  simp only [Controller.onOutput, mirrors.owns_behind, mirrors.tracker]
  exact mirrors_ite (mirrors.logLine _ _ _) mirrors

theorem handle (handler : Handler) (body : String) :
    Mirrors start handlers past (among.handle (handler.behind start) body)
      (alone.handle handler body) := by
  obtain ⟨own, kind⟩ := handler
  cases own with
  | zero =>
      simp only [Controller.handle, Handler.behind, Nat.add_zero, mirrors.record]
      cases alone.starts[0]? with
      | none => exact mirrors
      | some entry =>
          cases kind with
          | status => exact mirrors.onStatus entry.attempt body
          | agent => exact mirrors.onAgent entry.attempt body
          | output => exact mirrors.onOutput entry.attempt body
  | succ own =>
      -- Neither controller has begun such a start.
      have beyond : among.starts[start + (own + 1)]? = none :=
        List.getElem?_eq_none (by rw [mirrors.last]; omega)
      have beyondAlone : alone.starts[own + 1]? = none :=
        List.getElem?_eq_none (by rw [mirrors.only]; omega)
      simp only [Controller.handle, Handler.behind, beyond, beyondAlone]
      exact mirrors

/-! ## Turns -/

theorem fail (attempt : Attempt) (failure : StartFailure) :
    Mirrors start handlers past
      (among.fail start (attempt.behind start) failure)
      (alone.fail 0 attempt failure) := by
  have quiet := mirrors.teardown
  simp only [Controller.fail, quiet.owns_behind]
  split
  · exact quiet.setCall _
  · exact (((quiet.flagFailure _ failure).report _).announce _).setCall _

theorem succeed (attempt : Attempt) (url : String) :
    Mirrors start handlers past
      (among.succeed start (attempt.behind start) url)
      (alone.succeed 0 attempt url) := by
  have closed := mirrors.enter (.closed url)
  simp only [Controller.succeed, closed.owns_behind]
  split
  · exact (((closed.advance _ _).announce _).announce _).setCall _
  · exact closed.teardown.setCall _

theorem takeTurn (attempt : Attempt) (turn : Reconnect.Turn) :
    Mirrors start handlers past
      (among.takeTurn start (attempt.behind start) turn)
      (alone.takeTurn 0 attempt turn) := by
  cases turn with
  | opening run => exact ((mirrors.announce _).enter _).setCall _
  | waiting run =>
      simp only [Controller.takeTurn, mirrors.clock, mirrors.config]
      exact mirrors.setCall _
  | connected url => exact (mirrors.enter _).teardown.succeed attempt url
  | exhausted attempts last => exact mirrors.teardown.fail attempt _
  | cancelled => exact mirrors.fail attempt (.ofConnect .cancelled)

theorem subscribeChannels? (attempt : Attempt) (links : List Link) :
    Option.Rel (Mirrors start handlers past)
      (among.subscribeChannels? start (attempt.behind start) links)
      (alone.subscribeChannels? 0 attempt links) := by
  have ⟨sameAttempt, busMirrors⟩ := attempt.subscribeEach_behind mirrors.bus
    (advertised 0 attempt.workspaceId links)
  rw [← advertised_behind] at sameAttempt busMirrors
  simp only [Controller.subscribeChannels?, mirrors.isCurrent_behind]
  split
  · refine .some ?_
    have changed := mirrors.putAttempt
      (attempt.subscribeEach alone.bus
        (advertised 0 attempt.workspaceId links)).1 busMirrors
    rw [← sameAttempt] at changed
    exact changed
  · exact .none

theorem onStarted (attempt : Attempt)
    (answer : Except ControlFailure StartResult) :
    Mirrors start handlers past
      (among.onStarted start (attempt.behind start) answer)
      (alone.onStarted 0 attempt answer) := by
  cases answer with
  | error cause => exact mirrors.fail attempt _
  | ok result =>
      simp only [Controller.onStarted]
      have subscribes := mirrors.subscribeChannels? attempt result.links
      generalize among.subscribeChannels? start (attempt.behind start)
        result.links = accepted at subscribes ⊢
      generalize alone.subscribeChannels? 0 attempt result.links = acceptedAlone
        at subscribes ⊢
      cases subscribes with
      | none => exact mirrors.fail attempt _
      | some subscribed => exact ((subscribed.enter _).enter _).setCall _

theorem onWatched (attempt : Attempt)
    (answer : Except ControlFailure StatusChange) :
    Mirrors start handlers past
      (among.onWatched start (attempt.behind start) answer)
      (alone.onWatched 0 attempt answer) := by
  cases answer with
  | error cause => exact mirrors.fail attempt _
  | ok change =>
      simp only [Controller.onWatched]
      split
      · exact mirrors.fail attempt _
      · exact (mirrors.enter _).setCall _

theorem onFetched (attempt : Attempt)
    (answer : Except ControlFailure Workspace) :
    Mirrors start handlers past
      (among.onFetched start (attempt.behind start) answer)
      (alone.onFetched 0 attempt answer) := by
  cases answer with
  | error cause => exact mirrors.fail attempt _
  | ok workspace =>
      simp only [Controller.onFetched, mirrors.isCurrent_behind, mirrors.config]
      split
      · split
        · exact mirrors.takeTurn attempt _
        · exact mirrors.fail attempt _
      · exact mirrors.fail attempt _

end Mirrors

end Controller

end WorkspaceStartup
