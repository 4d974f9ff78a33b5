import WorkspaceStartup.Proofs.Controller.Report

/-!
# How the ends of starts are announced

A start announces once that it has succeeded or failed, when its call returns.
The beginning of the next start announces that it is superseded, whether or not
its call had returned by then; after that the start itself announces nothing
more.  So both announcements are made of a start that had ended before the next
one began.
-/

namespace WorkspaceStartup

/-- The event announces the end of a start. -/
def Event.isTerminal : Event → Bool
  | .startSucceeded _ | .startFailed _ _ _ | .superseded _ _ => true
  | _ => false

/-- The announcement that a start has ended. -/
def Deed.terminal? (deed : Deed) : Option Event :=
  deed.event?.filter Event.isTerminal

/-- What the start itself has announced of its end, by the state of its call. -/
def Start.outcome (start : Start) : List Event :=
  match start.call with
  | .returned (.ok _) => [.startSucceeded start.attempt.workspaceId]
  | _ => start.failures

theorem Deed.Quiet.terminal?_eq_none {deed : Deed} (quiet : deed.Quiet) :
    deed.terminal? = none := by
  rw [Deed.terminal?, quiet.1]
  rfl

theorem Start.outcome_of_pending {start : Start} {stage : Stage}
    (pending : start.call = .pending stage) : start.outcome = [] := by
  rw [Start.outcome, Start.failures, pending]

theorem Start.length_outcome_le (start : Start) : start.outcome.length ≤ 1 := by
  unfold Start.outcome Start.failures
  split
  · exact Nat.le_refl 1
  · split
    · split
      · exact Nat.zero_le 1
      · exact Nat.le_refl 1
    · exact Nat.zero_le 1

namespace Controller

variable {config : Config} {controller next : Controller} {start : Nat}
  {entry : Start}

/-- The announcements that the start has ended, the latest first. -/
def endings (controller : Controller) (start : Nat) : List Event :=
  Entry.select Deed.terminal? start controller.journal

def supersession (controller : Controller) (start : Nat) (entry : Start) :
    List Event :=
  if start + 1 < controller.starts.length then
    [.superseded entry.attempt.workspaceId entry.attempt.generation]
  else []

/-- The end of every start is announced as its record says. -/
def Concluded (controller : Controller) : Prop :=
  ∀ start entry, controller.starts[start]? = some entry →
    controller.endings start =
      controller.supersession start entry ++ entry.outcome

/-- Entries that announce no end have been made. -/
def GoesOn (before after : Controller) : Prop :=
  ∃ added, after.journal = added ++ before.journal ∧
    ∀ item ∈ added, item.deed.terminal? = none

theorem GoesOn.endings_eq (goesOn : GoesOn controller next) (start : Nat) :
    next.endings start = controller.endings start := by
  obtain ⟨added, journal, nothing⟩ := goesOn
  rw [endings, journal, Entry.select_append_of_none nothing]
  rfl

theorem endings_setCall (start other : Nat) (call : Call) :
    (controller.setCall other call).endings start = controller.endings start :=
  rfl

theorem endings_announce {event : Event} (terminal : event.isTerminal = true) :
    (controller.announce start event).endings start =
      event :: controller.endings start := by
  have chosen : Deed.terminal? (.announced event) = some event :=
    Option.filter_some_pos terminal
  refine (Entry.select_cons _).trans ?_
  rw [if_pos rfl, chosen]
  rfl

theorem Within.supersession_eq {actor : Nat}
    (within : Within actor controller next) (start : Nat) (entry : Start) :
    next.supersession start entry = controller.supersession start entry := by
  rw [supersession, within.length]
  rfl

theorem eq_of_setCall {call : Call}
    (found : (controller.setCall start call).starts[start]? = some entry) :
    ∃ before, controller.starts[start]? = some before ∧
      entry = { before with call := call } := by
  rw [Controller.setCall, getElem?_changeStart, if_pos rfl] at found
  obtain ⟨before, foundBefore, same⟩ := Option.map_eq_some_iff.mp found
  exact ⟨before, foundBefore, same.symm⟩

theorem goesOn_enter {deed : Deed} (nothing : deed.terminal? = none) :
    GoesOn controller (controller.enter start deed) := by
  refine ⟨[⟨start, controller.clock, deed⟩], rfl, ?_⟩
  exact List.forall_mem_singleton.mpr nothing

theorem Act.goesOn (act : Act start controller next) :
    GoesOn controller next := by
  cases act with
  | shown shows =>
      cases shows with
      | advanced | logged | relogged | marked | reported =>
          exact ⟨[_], rfl, List.forall_mem_singleton.mpr rfl⟩
  | noted deed _ quiet => exact goesOn_enter quiet.terminal?_eq_none
  | tried =>
      refine ⟨[_, _], rfl, ?_⟩
      exact List.forall_mem_cons.mpr ⟨rfl, List.forall_mem_singleton.mpr rfl⟩
  | tornDown found =>
      rw [teardown_eq found]
      exact ⟨[], rfl, nofun⟩
  | subscribed _ _ accepted =>
      obtain ⟨-, rfl⟩ := subscribeChannels?_eq_some_iff.mp accepted
      exact ⟨[], rfl, nofun⟩

theorem endings_begin (id : WorkspaceId) (environment : String) :
    (controller.begin id environment).endings start =
      Entry.select Deed.terminal? start controller.supersession?.toList ++
        controller.endings start := by
  rw [endings, journal_begin, Entry.select_cons_of_none rfl,
    Entry.select_cons_of_none rfl, Entry.select_cons_of_none rfl,
    Entry.select_append]
  rfl

/-- A beginning announces the supersession of the latest start. -/
theorem select_supersession? (numbered : controller.Numbered)
    (found : controller.starts[start]? = some entry) :
    Entry.select Deed.terminal? start controller.supersession?.toList =
      if start + 1 = controller.starts.length then
        [.superseded entry.attempt.workspaceId entry.attempt.generation]
      else [] := by
  split
  · next latest =>
      have active := (numbered.active start).mpr latest
      have announced : controller.supersession? =
          some ⟨start, controller.clock, .announced
            (.superseded entry.attempt.workspaceId
              entry.attempt.generation)⟩ := by
        simp [supersession?, active, found]
      rw [announced, Option.toList_some, Entry.select_cons, if_pos rfl]
      rfl
  · next notLatest =>
      refine Entry.select_eq_nil fun item announced => ?_
      obtain ⟨other, isActive, isItem⟩ :=
        Option.bind_eq_some_iff.mp (Option.mem_toList.mp announced)
      obtain ⟨-, -, rfl⟩ := Option.map_eq_some_iff.mp isItem
      rintro rfl
      exact notLatest ((numbered.active _).mp isActive)

namespace Concluded

theorem new (config : Config) : (Controller.new config).Concluded := nofun

theorem begin (concluded : controller.Concluded)
    (accounted : controller.Accounted) (numbered : controller.Numbered)
    (id : WorkspaceId) (environment : String) :
    (controller.begin id environment).Concluded := by
  intro start entry found
  have length := length_starts_begin controller id environment
  rw [endings_begin, supersession, length]
  rcases cases_of_begin _ found with
    ⟨rfl, rfl⟩ | ⟨before, foundBefore, isEntry⟩
  · -- Nothing has been entered for the new start yet.
    have unknown : controller.endings controller.starts.length = [] :=
      Entry.select_eq_nil fun item member =>
        Nat.ne_of_lt (accounted.known item member)
    have others : ∀ item ∈ controller.supersession?.toList,
        item.start ≠ controller.starts.length := by
      intro item announced
      obtain ⟨other, before, foundOther, rfl⟩ :=
        eq_of_mem_supersession? announced
      exact Nat.ne_of_lt (lt_length_of_found foundOther)
    rw [unknown, Entry.select_eq_nil others, if_neg (Nat.lt_irrefl _)]
    rfl
  · have inRange := lt_length_of_found foundBefore
    have sameRecord : entry.attempt.workspaceId = before.attempt.workspaceId ∧
        entry.attempt.generation = before.attempt.generation ∧
        entry.outcome = before.outcome := by
      rcases isEntry with rfl | rfl
      · exact ⟨rfl, rfl, rfl⟩
      · exact ⟨rfl, rfl, rfl⟩
    obtain ⟨sameId, sameGeneration, sameOutcome⟩ := sameRecord
    rw [select_supersession? numbered foundBefore,
      concluded start before foundBefore, supersession, sameId, sameGeneration,
      sameOutcome, if_pos (by omega : start + 1 < controller.starts.length + 1)]
    by_cases latest : start + 1 = controller.starts.length
    · rw [if_pos latest, if_neg (by omega)]
      rfl
    · rw [if_neg latest, if_pos (by omega)]
      rfl

/-- What is done on behalf of a start concerns its own end only. -/
theorem within (concluded : controller.Concluded)
    (within : Within start controller next)
    (own : ∀ entry, next.starts[start]? = some entry →
      next.endings start = next.supersession start entry ++ entry.outcome) :
    next.Concluded := by
  intro other entry found
  by_cases same : other = start
  · subst same
    exact own entry found
  · rw [within.others same] at found
    obtain ⟨added, journal, owned⟩ := within.journal
    have others : ∀ item ∈ added, item.start ≠ other :=
      fun item member => (owned item member).trans_ne (Ne.symm same)
    rw [endings, journal, Entry.select_append, Entry.select_eq_nil others,
      within.supersession_eq]
    exact concluded other entry found

/-- No end is announced, and the start has none to announce. -/
theorem goesOn (concluded : controller.Concluded)
    (within : Within start controller next) (goesOn : GoesOn controller next)
    (same : ∀ before entry, controller.starts[start]? = some before →
      next.starts[start]? = some entry →
      entry.attempt.bare = before.attempt.bare →
      entry.outcome = before.outcome) : next.Concluded := by
  refine concluded.within within fun entry found => ?_
  obtain ⟨before, foundBefore, bare⟩ := within.source found
  have sameId : entry.attempt.workspaceId = before.attempt.workspaceId :=
    congrArg (·.workspaceId) bare
  have sameGeneration : entry.attempt.generation = before.attempt.generation :=
    congrArg (·.generation) bare
  rw [goesOn.endings_eq, same before entry foundBefore found bare,
    within.supersession_eq, supersession, sameId, sameGeneration]
  exact concluded start before foundBefore

theorem act (concluded : controller.Concluded)
    (act : Act start controller next) : next.Concluded := by
  refine concluded.goesOn act.within act.goesOn ?_
  intro before entry found foundAfter bare
  have sameCall : entry.call = before.call := by
    have same := act.call?_eq start
    rw [call?_of_found found, call?_of_found foundAfter] at same
    exact Option.some.inj same
  have sameId : entry.attempt.workspaceId = before.attempt.workspaceId :=
    congrArg (·.workspaceId) bare
  simp only [Start.outcome, Start.failures, sameCall, sameId]

theorem setCall {call : Call} {stage : Stage}
    (concluded : controller.Concluded)
    (pending : controller.call? start = some (.pending stage))
    (silent : ∀ entry : Start,
      Start.outcome { entry with call := call } = []) :
    (controller.setCall start call).Concluded := by
  refine concluded.goesOn (.setCall call) ⟨[], rfl, nofun⟩ ?_
  intro before entry found foundAfter _
  obtain ⟨same, foundSame, rfl⟩ := eq_of_setCall foundAfter
  cases found.symm.trans foundSame
  rw [call?_of_found found] at pending
  rw [silent before, Start.outcome_of_pending (Option.some.inj pending)]

/-- Nothing has been announced of the end of the latest start while its call is
pending. -/
theorem endings_of_latest {attempt : Attempt} {stage : Stage}
    (concluded : controller.Concluded) (numbered : controller.Numbered)
    (runs : controller.Runs start attempt)
    (owned : controller.owns attempt = true)
    (pending : controller.call? start = some (.pending stage)) :
    controller.endings start = [] ∧
      ∀ entry, controller.supersession start entry = [] := by
  have latest := (numbered.owns_iff runs).mp owned
  have notSuperseded : ¬ start + 1 < controller.starts.length := by omega
  obtain ⟨entry, found, call⟩ := Option.map_eq_some_iff.mp pending
  constructor
  · rw [concluded start entry found, supersession, if_neg notSuperseded,
      Start.outcome_of_pending call]
    rfl
  · intro entry
    rw [supersession, if_neg notSuperseded]

theorem change {stage : Stage} (concluded : controller.Concluded)
    (numbered : controller.Numbered)
    (pending : controller.call? start = some (.pending stage))
    (change : CallChange start controller next) : next.Concluded := by
  have within := change.within
  cases change with
  | waits | leaves | yields => exact concluded.setCall pending fun _ => rfl
  | @fails attempt failure runs owned final =>
      obtain ⟨nothing, notSuperseded⟩ :=
        concluded.endings_of_latest numbered runs owned pending
      refine concluded.within within fun entry found => ?_
      obtain ⟨before, foundBefore, rfl⟩ := eq_of_setCall found
      have sameId := runs.workspaceId_eq ⟨before, foundBefore, rfl⟩
      rw [within.supersession_eq, notSuperseded, endings_setCall,
        endings_announce rfl, nothing]
      simp [Start.outcome, Start.failures, final, sameId]
  | @succeeds attempt url runs owned =>
      obtain ⟨nothing, notSuperseded⟩ :=
        concluded.endings_of_latest numbered runs owned pending
      refine concluded.within within fun entry found => ?_
      obtain ⟨before, foundBefore, rfl⟩ := eq_of_setCall found
      have sameId := runs.workspaceId_eq ⟨before, foundBefore, rfl⟩
      have connected : GoesOn controller
          (controller.announce start
            (.agentConnected attempt.workspaceId url)) := goesOn_enter rfl
      rw [within.supersession_eq, notSuperseded, endings_setCall,
        endings_announce rfl, connected.endings_eq, nothing]
      simp [Start.outcome, sameId]

end Concluded

theorem Reachable.concluded (reachable : Reachable config controller) :
    controller.Concluded := by
  refine (reachable.invariant (fun controller =>
    controller.Accounted ∧ controller.Concluded) ⟨.new config, .new config⟩
    ?_ ?_ ?_ ?_).2
  · intro controller id environment sound ⟨accounted, concluded⟩
    exact ⟨accounted.begin id environment,
      concluded.begin accounted sound.numbered id environment⟩
  · intro controller milliseconds ⟨accounted, concluded⟩
    exact ⟨⟨accounted.known, accounted.told⟩, concluded⟩
  · intro start controller next _ act ⟨accounted, concluded⟩
    exact ⟨accounted.act act, concluded.act act⟩
  · intro start stage controller next sound pending change
      ⟨accounted, concluded⟩
    exact ⟨accounted.change pending change,
      concluded.change sound.numbered pending change⟩

/-- In every reachable state, the announcements that a start has ended are the
one that it made itself when its call returned, and after it that of the next
beginning.  There are two of them if and only if the start had announced its end
and a later one has begun. -/
theorem ends_of_starts_are_announced (reachable : Reachable config controller)
    (found : controller.starts[start]? = some entry) :
    controller.endings start =
        (if start + 1 < controller.starts.length then
          [.superseded entry.attempt.workspaceId entry.attempt.generation]
        else []) ++ entry.outcome ∧
      (controller.endings start).length ≤ 2 ∧
      ((controller.endings start).length = 2 ↔
        start + 1 < controller.starts.length ∧ entry.outcome ≠ []) := by
  have endings := reachable.concluded start entry found
  have one := entry.length_outcome_le
  refine ⟨endings, ?_⟩
  rw [endings, supersession, ← List.length_pos_iff]
  split
  · next late =>
      simp only [List.length_append, List.length_singleton, late, true_and]
      omega
  · next latest =>
      simp only [List.nil_append, latest, false_and, iff_false]
      omega

theorem ends_of_starts_are_announced_after_failure :
    ∃ controller entry,
      (Controller.new ⟨1, 0, .agentServer⟩).run?
          [.begin ⟨"w"⟩ "", .started 0 (.error .cancelled)] =
        some controller ∧
      controller.starts[0]? = some entry ∧
      controller.endings 0 = entry.outcome := by
  have ran : (Controller.new ⟨1, 0, .agentServer⟩).run?
      [.begin ⟨"w"⟩ "", .started 0 (.error .cancelled)] = some _ := rfl
  have announced :=
    @ends_of_starts_are_announced _ _ 0 _ (Reachable.new.run ran) rfl
  exact ⟨_, _, ran, rfl, announced.1⟩

/-- A start that was rejected is announced as superseded, too, when the next one
begins. -/
theorem rejected_start_is_announced_as_superseded :
    ∃ controller,
      (Controller.new ⟨1, 0, .agentServer⟩).run?
          [.begin ⟨"w"⟩ "", .started 0 (.error .cancelled),
            .begin ⟨"w"⟩ ""] = some controller ∧
      controller.endings 0 =
        [.superseded ⟨"w"⟩ 1,
          .startFailed ⟨"w"⟩ .workspaceStart
            (StartFailure.requestRejected .cancelled).shown] :=
  ⟨_, rfl, rfl⟩

end Controller

end WorkspaceStartup
