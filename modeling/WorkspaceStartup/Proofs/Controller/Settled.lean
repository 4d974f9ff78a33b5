import WorkspaceStartup.Proofs.Controller.Unanswered

/-!
# Calls of superseded starts

A waiting call notices by itself that its start is superseded, and returns
without an answer from outside.  The one exception is a call whose link is being
opened: nothing is raced against the opening, so such a call learns of the later
start only when the opening has ended.  Left to themselves, the calls come to
rest after as many moves as there are attentive ones at most; by then the calls
of all superseded starts have returned, except those whose link is being opened.
-/

namespace WorkspaceStartup

/-- A call makes the move by itself, without anything from outside. -/
def Move.isOwn : Move → Bool
  | .woken _ | .withdrawn _ => true
  | _ => false

/-- Where the call waits, if it does. -/
def Call.stage? : Call → Option Stage
  | .pending stage => some stage
  | .returned _ | .dropped => none

/-- The call waits, and notices meanwhile that its start is superseded. -/
def Call.isAttentive : Call → Bool
  | .pending (.opening _) => false
  | .pending _ => true
  | .returned _ | .dropped => false

namespace Controller

variable {config : Config} {controller next : Controller} {start : Nat}
  {attempt : Attempt} {stage : Stage} {entry : Start} {run : Reconnect}
  {moves : List Move} {move : Move}

/-- No call can go on by itself. -/
def Settled (controller : Controller) : Prop :=
  ∀ move, move.isOwn = true → controller.step? move = none

/-- Where the calls of the starts wait, if they do. -/
def stages (controller : Controller) : List (Option Stage) :=
  controller.starts.map (·.call.stage?)

def attentive (controller : Controller) : Nat :=
  controller.starts.countP (·.call.isAttentive)

theorem pending?_of_call?
    (pending : controller.call? start = some (.pending stage)) :
    ∃ entry, controller.starts[start]? = some entry ∧
      controller.pending? start = some (entry.attempt, stage) := by
  obtain ⟨entry, found, call⟩ := Option.map_eq_some_iff.mp pending
  exact ⟨entry, found, pending?_eq_some_iff.mpr ⟨entry, found, rfl, call⟩⟩

theorem call?_eq_pending_iff :
    controller.call? start = some (.pending stage) ↔
      controller.stages[start]? = some (some stage) := by
  rw [call?, stages, List.getElem?_map, Option.map_eq_some_iff,
    Option.map_eq_some_iff]
  refine exists_congr fun entry => and_congr_right fun _ => ?_
  cases entry.call with
  | pending => simp [Call.stage?]
  | returned | dropped => simp [Call.stage?]

/-! ## Ends of calls -/

theorem call?_setCall_of_runs (runs : controller.Runs start attempt)
    (call : Call) :
    (controller.setCall start call).call? start = some call := by
  obtain ⟨entry, found, -⟩ := runs
  rw [call?_setCall, if_pos rfl, found]
  rfl

theorem call?_fail_of_late {failure : StartFailure}
    (runs : controller.Runs start attempt)
    (late : failure.isSuperseded = true ∨ controller.owns attempt = false) :
    (controller.fail start attempt failure).call? start =
      some (.returned (.error .superseded)) := by
  have quiet := within_of_acts (acts_teardown runs)
  have ended : (failure.isSuperseded ||
      !(controller.teardown start).owns attempt) = true := by
    rw [quiet.owns_eq]
    rcases late with superseded | disowned
    · rw [superseded, Bool.true_or]
    · rw [disowned, Bool.not_false, Bool.or_true]
  simp only [fail, ended, if_true]
  exact call?_setCall_of_runs (quiet.runs runs) _

theorem call?_succeed_of_late {url : String}
    (runs : controller.Runs start attempt)
    (disowned : controller.owns attempt = false) :
    (controller.succeed start attempt url).call? start =
      some (.returned (.error .superseded)) := by
  have closed : Within start controller
      (controller.enter start (.closed url)) := .enter _
  have stillDisowned := (closed.owns_eq attempt).trans disowned
  simp only [succeed, stillDisowned, Bool.false_eq_true, if_false]
  have torn := within_of_acts (acts_teardown (closed.runs runs))
  exact call?_setCall_of_runs (torn.runs (closed.runs runs)) _

/-! ## Superseded calls -/

theorem Reachable.late (reachable : Reachable config controller)
    (late : controller.Superseded start)
    (found : controller.starts[start]? = some entry) :
    entry.attempt.cancelled = true ∧
      controller.isCurrent entry.attempt = false ∧
      controller.owns entry.attempt = false := by
  have numbered := reachable.sound.numbered
  have runs : controller.Runs start entry.attempt := ⟨entry, found, rfl⟩
  refine ⟨(numbered.attempt found).2.mpr late, ?_, ?_⟩
  · exact Bool.not_eq_true _ |>.mp (late.not_isCurrent numbered runs)
  · exact Bool.not_eq_true _ |>.mp (late.not_owns numbered runs)

/-- Whatever it waits for, an attentive call returns at once. -/
theorem Reachable.withdrawn (reachable : Reachable config controller)
    (late : controller.Superseded start)
    (pending : controller.call? start = some (.pending stage))
    (attentive : ∀ run, stage ≠ .opening run) :
    ∃ next, controller.step? (.withdrawn start) = some next ∧
      next.call? start = some (.returned (.error .superseded)) := by
  obtain ⟨entry, found, waits⟩ := pending?_of_call? pending
  have cancelled := (reachable.late late found).1
  refine ⟨controller.fail start entry.attempt .superseded, ?_,
    call?_fail_of_late ⟨entry, found, rfl⟩ (.inl rfl)⟩
  cases stage with
  | opening run => exact (attentive run rfl).elim
  | starting | watching | fetching | waiting =>
      simp only [step?, waits, cancelled, if_true]

/-- A call whose link is being opened learns of the later start when the opening
has ended, however it ends. -/
theorem Reachable.linked (reachable : Reachable config controller)
    (late : controller.Superseded start)
    (pending : controller.call? start = some (.pending (.opening run)))
    (outcome : Except LinkFailure Unit) :
    ∃ next, controller.step? (.linked start outcome) = some next ∧
      (next.call? start = some (.returned (.error .superseded)) ∨
        ∃ last, next.step? (.withdrawn start) = some last ∧
          last.call? start = some (.returned (.error .superseded))) := by
  obtain ⟨entry, found, waits⟩ := pending?_of_call? pending
  have runs : controller.Runs start entry.attempt := ⟨entry, found, rfl⟩
  have disowned := (reachable.late late found).2.2
  have taken : controller.step? (.linked start outcome) =
      some (controller.takeTurn start entry.attempt (run.settle outcome)) := by
    simp only [step?, waits]
  refine ⟨_, taken, ?_⟩
  cases outcome with
  | ok =>
      left
      have connected : Within start controller
          (controller.enter start (.connected run.url)) := .enter _
      have torn := within_of_acts (acts_teardown (connected.runs runs))
      have within := connected.trans torn
      exact call?_succeed_of_late (within.runs runs)
        ((within.owns_eq _).trans disowned)
  | error failure =>
      by_cases remains : 0 < run.remaining - 1
      · right
        have after := Reachable.step _ reachable taken
        simp only [Reconnect.settle, remains, if_true, takeTurn] at after ⊢
        refine after.withdrawn (late.within (.setCall _))
          (call?_setCall_of_runs runs _) ?_
        intro other isOpening
        cases isOpening
      · left
        have torn := within_of_acts (acts_teardown runs)
        simp only [Reconnect.settle, remains, if_false, takeTurn]
        exact call?_fail_of_late (torn.runs runs)
          (.inr ((torn.owns_eq _).trans disowned))

/-! ## Moves that calls make by themselves -/

theorem of_withdrawn (taken : controller.step? (.withdrawn start) = some next) :
    ∃ entry stage, controller.starts[start]? = some entry ∧
      entry.call = .pending stage ∧ (∀ run, stage ≠ .opening run) ∧
      entry.attempt.cancelled = true ∧
      next.call? start = some (.returned (.error .superseded)) := by
  cases pending : controller.pending? start with
  | none => simp [step?, pending] at taken
  | some waits =>
      obtain ⟨attempt, stage⟩ := waits
      obtain ⟨entry, found, rfl, call⟩ := pending?_eq_some_iff.mp pending
      have returned :
          (controller.fail start entry.attempt .superseded).call? start =
            some (.returned (.error .superseded)) :=
        call?_fail_of_late ⟨entry, found, rfl⟩ (.inl rfl)
      cases stage with
      | opening => simp [step?, pending] at taken
      | starting | watching | fetching | waiting =>
          simp only [step?, pending] at taken
          split at taken
          · next cancelled =>
              cases taken
              refine ⟨entry, _, found, call, ?_, cancelled, returned⟩
              intro run isOpening
              cases isOpening
          · cases taken

theorem of_woken (taken : controller.step? (.woken start) = some next) :
    ∃ entry run wakeTime, controller.starts[start]? = some entry ∧
      entry.call = .pending (.waiting run wakeTime) ∧
      wakeTime ≤ controller.clock ∧
      (next.call? start = some (.returned (.error .superseded)) ∨
        controller.isCurrent entry.attempt = true ∧
          ∃ run, next.call? start = some (.pending (.opening run))) := by
  cases pending : controller.pending? start with
  | none => simp [step?, pending] at taken
  | some waits =>
      obtain ⟨attempt, stage⟩ := waits
      obtain ⟨entry, found, rfl, call⟩ := pending?_eq_some_iff.mp pending
      have runs : controller.Runs start entry.attempt := ⟨entry, found, rfl⟩
      cases stage with
      | starting | watching | fetching | opening =>
          simp [step?, pending] at taken
      | waiting run wakeTime =>
          simp only [step?, pending] at taken
          split at taken
          · next elapsed =>
              cases taken
              refine ⟨entry, run, wakeTime, found, call, elapsed, ?_⟩
              by_cases current : controller.isCurrent entry.attempt = true
              · refine .inr ⟨current, ?_⟩
                simp only [Reconnect.proceed, current, if_true, takeTurn]
                have tried := (Act.tried { run with made := run.made + 1 } runs
                  current).within
                exact ⟨_, call?_setCall_of_runs (tried.runs runs) _⟩
              · left
                simp only [Reconnect.proceed, current, takeTurn]
                exact call?_fail_of_late runs (.inl rfl)
          · cases taken

/-- Only an attentive call makes a move by itself: it says that it is
superseded, or the link is opened for it again. -/
theorem cases_of_own (isOwn : move.isOwn = true)
    (taken : controller.step? move = some next) :
    ∃ start entry stage, move.actor? controller = some start ∧
      controller.starts[start]? = some entry ∧
      entry.call = .pending stage ∧ (∀ run, stage ≠ .opening run) ∧
      (next.call? start = some (.returned (.error .superseded)) ∨
        controller.isCurrent entry.attempt = true ∧
          ∃ run, next.call? start = some (.pending (.opening run))) := by
  cases move with
  | begin | drop | publish | fire | started | watched | fetched | linked
  | tick => cases isOwn
  | withdrawn start =>
      obtain ⟨entry, stage, found, call, notOpening, -, returned⟩ :=
        of_withdrawn taken
      exact ⟨start, entry, stage, rfl, found, call, notOpening, .inl returned⟩
  | woken start =>
      obtain ⟨entry, run, wakeTime, found, call, -, after⟩ := of_woken taken
      exact ⟨start, entry, _, rfl, found, call, nofun, after⟩

theorem Within.starts_eq (within : Within start controller next)
    (found : next.starts[start]? = some entry) :
    next.starts = controller.starts.set start entry := by
  refine List.ext_getElem? fun other => ?_
  rw [List.getElem?_set]
  by_cases same : start = other
  · subst same
    have inRange := lt_length_of_found found
    rw [within.length] at inRange
    rw [found, if_pos rfl, if_pos inRange]
  · rw [if_neg same]
    exact within.others (Ne.symm same)

theorem Reachable.attentive_of_own (reachable : Reachable config controller)
    (isOwn : move.isOwn = true) (taken : controller.step? move = some next) :
    next.attentive + 1 = controller.attentive := by
  obtain ⟨start, entry, stage, actor, found, call, notOpening, after⟩ :=
    cases_of_own isOwn taken
  have within := (reachable.follows taken).within actor
  obtain ⟨inRange, isEntry⟩ := List.getElem?_eq_some_iff.mp found
  have wasAttentive : controller.starts[start].call.isAttentive = true := by
    rw [isEntry, call]
    cases stage with
    | opening run => exact (notOpening run rfl).elim
    | starting | watching | fetching | waiting => rfl
  obtain ⟨changed, foundChanged, -⟩ := within.own found
  have isAttentive : changed.call.isAttentive = false := by
    simp only [call?_of_found foundChanged, Option.some.injEq] at after
    rcases after with returned | ⟨-, run, opening⟩
    · rw [returned]
      rfl
    · rw [opening]
      rfl
  have positive : 0 < controller.attentive :=
    List.countP_pos_iff.mpr ⟨_, List.getElem_mem inRange, wasAttentive⟩
  rw [attentive, within.starts_eq foundChanged, List.countP_set inRange,
    wasAttentive, isAttentive]
  simp only [attentive] at positive ⊢
  simp
  omega

/-- Left to itself, the call of a superseded start waits for the opening of its
link, or it returns. -/
theorem Reachable.call?_of_own (reachable : Reachable config controller)
    (late : controller.Superseded start) (isOwn : move.isOwn = true)
    (taken : controller.step? move = some next)
    (pending : controller.call? start = some (.pending stage)) :
    next.call? start = some (.pending stage) ∨
      (∀ run, stage ≠ .opening run) ∧
        next.call? start = some (.returned (.error .superseded)) := by
  obtain ⟨actor, entry, before, isActor, found, call, notOpening, after⟩ :=
    cases_of_own isOwn taken
  have within := (reachable.follows taken).within isActor
  by_cases same : start = actor
  · subst same
    rw [call?_of_found found, call] at pending
    cases pending
    refine .inr ⟨notOpening, ?_⟩
    rcases after with returned | ⟨current, -⟩
    · exact returned
    · rw [(reachable.late late found).2.1] at current
      cases current
  · left
    exact (congrArg (·.map (·.call)) (within.others same)).trans pending

/-! ## Coming to rest -/

/-- Left to themselves, the calls have come to rest after the moves. -/
structure Rests (controller : Controller) (moves : List Move)
    (next : Controller) : Prop where
  own : ∀ move ∈ moves, move.isOwn = true
  ran : controller.run? moves = some next
  settled : next.Settled

theorem Reachable.attentive_of_run (reachable : Reachable config controller)
    (own : ∀ move ∈ moves, move.isOwn = true)
    (ran : controller.run? moves = some next) :
    next.attentive + moves.length = controller.attentive := by
  induction moves generalizing controller with
  | nil =>
      cases ran
      rfl
  | cons move moves induction =>
      obtain ⟨between, taken, rest⟩ := Option.bind_eq_some_iff.mp ran
      obtain ⟨first, others⟩ := List.forall_mem_cons.mp own
      have one := reachable.attentive_of_own first taken
      have later := induction (.step move reachable taken) others rest
      rw [List.length_cons]
      omega

theorem Reachable.exists_rests (reachable : Reachable config controller) :
    ∃ moves next, controller.Rests moves next := by
  -- Every move that a call makes by itself leaves one attentive call less.
  induction count : controller.attentive using Nat.strongRecOn
    generalizing controller with
  | ind count induction =>
      by_cases settled : controller.Settled
      · exact ⟨[], controller, nofun, rfl, settled⟩
      · obtain ⟨move, isOwn, possible⟩ : ∃ move : Move,
            move.isOwn = true ∧ controller.step? move ≠ none := by
          simpa [Settled] using settled
        obtain ⟨between, taken⟩ := Option.ne_none_iff_exists'.mp possible
        have less := reachable.attentive_of_own isOwn taken
        obtain ⟨moves, next, rests⟩ := induction between.attentive (by omega)
          (.step move reachable taken) rfl
        refine ⟨move :: moves, next, ?_, ?_, rests.settled⟩
        · exact List.forall_mem_cons.mpr ⟨isOwn, rests.own⟩
        · rw [run?, taken]
          exact rests.ran

/-- Nothing can go on by itself if and only if every call that waits for
anything but the opening of its link is that of the latest start, and its wait
is not elapsed. -/
theorem Reachable.settled_iff (reachable : Reachable config controller) :
    controller.Settled ↔ ∀ start stage,
      controller.call? start = some (.pending stage) →
      (∃ run, stage = .opening run) ∨
        start + 1 = controller.starts.length ∧
          ∀ run wakeTime, stage = .waiting run wakeTime →
            controller.clock < wakeTime := by
  constructor
  · intro settled start stage pending
    by_cases opening : ∃ run, stage = .opening run
    · exact .inl opening
    · right
      obtain ⟨entry, found, waits⟩ := pending?_of_call? pending
      constructor
      · by_contra notLatest
        have inRange := lt_length_of_found found
        have late : controller.Superseded start := by
          rw [Superseded]
          omega
        obtain ⟨next, taken, -⟩ :=
          reachable.withdrawn late pending (not_exists.mp opening)
        rw [settled (.withdrawn start) rfl] at taken
        cases taken
      · rintro run wakeTime rfl
        by_contra notLater
        have elapsed : wakeTime ≤ controller.clock := Nat.le_of_not_lt notLater
        have impossible := settled (.woken start) rfl
        simp [step?, waits, elapsed] at impossible
  · intro calls move isOwn
    by_contra possible
    obtain ⟨next, taken⟩ := Option.ne_none_iff_exists'.mp possible
    cases move with
    | begin | drop | publish | fire | started | watched | fetched | linked
    | tick => cases isOwn
    | withdrawn start =>
        obtain ⟨entry, stage, found, call, notOpening, cancelled, -⟩ :=
          of_withdrawn taken
        have pending := (call?_of_found found).trans (congrArg some call)
        have late := (reachable.sound.numbered.attempt found).2.mp cancelled
        rcases calls start stage pending with ⟨run, isOpening⟩ | ⟨latest, -⟩
        · exact notOpening run isOpening
        · omega
    | woken start =>
        obtain ⟨entry, run, wakeTime, found, call, elapsed, -⟩ := of_woken taken
        have pending := (call?_of_found found).trans (congrArg some call)
        rcases calls start _ pending with ⟨_, isOpening⟩ | ⟨-, later⟩
        · cases isOpening
        · exact Nat.not_lt_of_le elapsed (later run wakeTime rfl)

theorem Reachable.call?_of_own_run (reachable : Reachable config controller)
    (late : controller.Superseded start)
    (own : ∀ move ∈ moves, move.isOwn = true)
    (ran : controller.run? moves = some next)
    (pending : controller.call? start = some (.pending stage)) :
    next.call? start = some (.pending stage) ∨
      (∀ run, stage ≠ .opening run) ∧
        next.call? start = some (.returned (.error .superseded)) := by
  induction moves generalizing controller with
  | nil =>
      cases ran
      exact .inl pending
  | cons move moves induction =>
      obtain ⟨between, taken, rest⟩ := Option.bind_eq_some_iff.mp ran
      obtain ⟨first, others⟩ := List.forall_mem_cons.mp own
      have stillReachable := Reachable.step move reachable taken
      -- The call stays where it is until a move of its own start, with which it
      -- returns.
      rcases reachable.call?_of_own late first taken pending with
        stays | ⟨notOpening, returned⟩
      · exact induction stillReachable (late.step reachable taken) others rest
          stays
      · refine .inr ⟨notOpening, ?_⟩
        refine stillReachable.run_induction
          (fun controller => controller.call? start =
            some (.returned (.error .superseded))) ?_ rest returned
        intro _ _ _ _ follows before
        exact follows.call?_of_ended before nofun

/-- Left to themselves, the calls come to rest, and by then the call of every
superseded start has returned, unless its link is being opened: such a call
returns after the opening has ended, and not before. -/
theorem superseded_calls_return_unless_opening
    (reachable : Reachable config controller) :
    (∀ moves next, (∀ move ∈ moves, move.isOwn = true) →
      controller.run? moves = some next →
      moves.length ≤ controller.starts.length) ∧
    (∃ moves next, controller.Rests moves next) ∧
    (∀ moves next start stage, controller.Rests moves next →
      controller.Superseded start →
      controller.call? start = some (.pending stage) →
      (∃ run, stage = .opening run) ∧
          next.call? start = some (.pending stage) ∨
        (∀ run, stage ≠ .opening run) ∧
          next.call? start = some (.returned (.error .superseded))) ∧
    (controller.Settled ↔ ∀ start stage,
      controller.call? start = some (.pending stage) →
      (∃ run, stage = .opening run) ∨
        start + 1 = controller.starts.length ∧
          ∀ run wakeTime, stage = .waiting run wakeTime →
            controller.clock < wakeTime) ∧
    (∀ start run outcome, controller.Superseded start →
      controller.call? start = some (.pending (.opening run)) →
      ∃ next, controller.step? (.linked start outcome) = some next ∧
        (next.call? start = some (.returned (.error .superseded)) ∨
          ∃ last, next.step? (.withdrawn start) = some last ∧
            last.call? start = some (.returned (.error .superseded)))) := by
  refine ⟨?_, reachable.exists_rests, ?_, reachable.settled_iff, ?_⟩
  · intro moves next own ran
    have count := reachable.attentive_of_run own ran
    have bound : controller.attentive ≤ controller.starts.length :=
      List.countP_le_length
    omega
  · intro moves next start stage ⟨own, ran, settled⟩ late pending
    rcases reachable.call?_of_own_run late own ran pending with
      stays | returned
    · left
      have length := reachable.length_starts_of_run ran
      rw [Superseded] at late
      rcases (reachable.run ran).settled_iff.mp settled start stage stays with
        opening | ⟨latest, -⟩
      · exact ⟨opening, stays⟩
      · omega
    · exact .inr returned
  · intro start run outcome late pending
    exact reachable.linked late pending outcome

/-- A start that is superseded before its channels were given up rests with a
returned call. -/
theorem superseded_calls_return_unless_opening_after_restart :
    ∃ controller moves next,
      (Controller.new ⟨1, 0, .agentServer⟩).run?
          [.begin ⟨"w"⟩ "", .started 0 (.ok ⟨⟨"w"⟩, []⟩), .begin ⟨"w"⟩ ""] =
        some controller ∧
      controller.Rests moves next ∧ moves.length ≤ 2 ∧
      next.call? 0 = some (.returned (.error .superseded)) := by
  have ran : (Controller.new ⟨1, 0, .agentServer⟩).run?
      [.begin ⟨"w"⟩ "", .started 0 (.ok ⟨⟨"w"⟩, []⟩), .begin ⟨"w"⟩ ""] =
    some _ := rfl
  obtain ⟨bound, ⟨moves, next, rests⟩, ended, -⟩ :=
    superseded_calls_return_unless_opening (Reachable.new.run ran)
  refine ⟨_, moves, next, ran, rests, bound moves next rests.own rests.ran, ?_⟩
  rcases ended moves next 0 .watching rests Nat.one_lt_two rfl with
    ⟨⟨run, opening⟩, -⟩ | ⟨-, returned⟩
  · cases opening
  · exact returned

/-- The agent of a workspace that has been started. -/
def startedMachine : Machine where
  config := ⟨"dev"⟩
  runtime :=
    ⟨.empty, .ofList [("1/tcp", ⟨none, some "[::1]:1", none, none⟩)]⟩

/-- A workspace is started while the link to the agent of another is being
opened. -/
def restartWhileOpening (id other : WorkspaceId) : List Move :=
  [.begin id "", .started 0 (.ok ⟨id, []⟩),
    .watched 0 (.ok ⟨id, .running, none⟩),
    .fetched 0 (.ok
      ⟨id, .running, ⟨"", ""⟩, [], some ⟨none, [startedMachine]⟩⟩),
    .begin other ""]

/-- Nothing tells the first call of the second start, as long as the link is
being opened. -/
theorem superseded_call_waits_for_its_link :
    ∃ controller,
      (Controller.new ⟨1, 0, .fixedPort 1⟩).run?
          (restartWhileOpening ⟨"v"⟩ ⟨"w"⟩) = some controller ∧
      controller.Settled ∧ controller.Superseded 0 ∧
      controller.call? 0 =
        some (.pending (.opening ⟨"ws://[::1]:1/", 1, 1⟩)) := by
  have waits : ((Controller.new ⟨1, 0, .fixedPort 1⟩).run?
      (restartWhileOpening ⟨"v"⟩ ⟨"w"⟩)).map stages =
    some [some (.opening ⟨"ws://[::1]:1/", 1, 1⟩), some .starting] := by
    decide +kernel
  obtain ⟨controller, ran, stages⟩ := Option.map_eq_some_iff.mp waits
  have length : controller.starts.length = 2 := length_starts_of_run ran
  refine ⟨controller, ran, ?_, ?_, ?_⟩
  · rw [(Reachable.new.run ran).settled_iff]
    intro start stage pending
    rw [call?_eq_pending_iff, stages] at pending
    match start with
    | 0 =>
        cases pending
        exact .inl ⟨_, rfl⟩
    | 1 =>
        cases pending
        exact .inr ⟨length.symm, nofun⟩
    | _ + 2 => cases pending
  · rw [Superseded, length]
    exact Nat.one_lt_two
  · rw [call?_eq_pending_iff, stages]
    rfl

end Controller

end WorkspaceStartup
