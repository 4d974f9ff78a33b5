import WorkspaceStartup.Proofs.Controller.Milestone
import WorkspaceStartup.Proofs.Controller.Settled

/-!
# Where the progress stands

The position of the current step says how far the latest start has come.  It is
at the last step if and only if the call of that start has returned a success,
and it has left the first step only then or by a message of the agent.  It moves
forward alone until the next start begins, and every announcement that a step is
reached names a later step than the one before.
-/

namespace WorkspaceStartup

/-- The step that an announcement says to be reached. -/
def Deed.reached? : Deed → Option Nat
  | .announced (.stepAdvanced _ step) => some step
  | _ => none

theorem Deed.reached?_eq_none {deed : Deed} (plain : deed.isMilestone = false) :
    deed.reached? = none := by
  cases deed with
  | announced event =>
      cases event with
      | stepAdvanced => cases plain
      | stepLogged | stepFailed | recentUpdated | listRefresh
      | connectAttempted | agentConnected | startSucceeded | startFailed
      | superseded => rfl
  | reported | askedStart | askedStatus | askedDetails | opened => rfl
  | connected | closed => cases plain

/-- The steps that were reached among entries, the earliest first. -/
def Entry.reached (entries : List Entry) : List Nat :=
  (entries.filterMap (·.deed.reached?)).reverse

theorem Entry.reached_append (later earlier : List Entry) :
    reached (later ++ earlier) = reached earlier ++ reached later := by
  simp only [reached, List.filterMap_append, List.reverse_append]

theorem Entry.reached_eq_nil {entries : List Entry}
    (plain : ∀ item ∈ entries, item.deed.reached? = none) :
    reached entries = [] := by
  rw [reached, List.filterMap_eq_nil_iff.mpr plain, List.reverse_nil]

/-- The steps lead from one position to another, each further than the one
before. -/
def Ascends (position : Nat) : List Nat → Nat → Prop
  | [], last => last = position
  | step :: steps, last => position < step ∧ Ascends step steps last

namespace Ascends

variable {first second third : Nat} {earlier later : List Nat}

theorem trans (before : Ascends first earlier second)
    (after : Ascends second later third) :
    Ascends first (earlier ++ later) third := by
  induction earlier generalizing first with
  | nil =>
      cases before
      exact after
  | cons step steps induction =>
      obtain ⟨further, rest⟩ := before
      exact ⟨further, induction rest⟩

theorem le (ascends : Ascends first earlier second) : first ≤ second := by
  induction earlier generalizing first with
  | nil => exact Nat.le_of_eq ascends.symm
  | cons step steps induction =>
      obtain ⟨further, rest⟩ := ascends
      exact Nat.le_of_lt (Nat.lt_of_lt_of_le further (induction rest))

end Ascends

namespace Controller

variable {config : Config} {controller middle next : Controller}
  {start other : Nat} {attempt : Attempt} {id : WorkspaceId}
  {moves : List Move} {move : Move}

/-- The call of the latest start has returned a success. -/
def Arrived (controller : Controller) : Prop :=
  ∃ start, start + 1 = controller.starts.length ∧
    controller.call? start = some (.returned (.ok ()))

/-- A message was delivered to a handler in the course of the moves. -/
def Delivered (config : Config) (moves : List Move) (handler : Handler) :
    Prop :=
  ∃ earlier move later before, moves = earlier ++ move :: later ∧
    (Controller.new config).run? earlier = some before ∧
    move.handler? before = some handler

theorem Delivered.append {handler : Handler}
    (delivered : Delivered config moves handler) (later : List Move) :
    Delivered config (moves ++ later) handler := by
  obtain ⟨earlier, move, rest, before, rfl, ran, heard⟩ := delivered
  exact ⟨earlier, move, rest ++ later, before, by simp, ran, heard⟩

/-! ## Moving forward -/

theorem current_advance {step : Nat}
    (inRange : step < controller.tracker.steps.length) :
    (controller.advance start id step).tracker.current =
      max controller.tracker.current step := by
  unfold advance
  split
  · next moved =>
      obtain ⟨ahead, -, rfl⟩ := Tracker.advance_eq_some_iff.mp moved
      exact (Nat.max_eq_right (Nat.le_of_lt ahead)).symm
  · next stays =>
      have notAhead : ¬ controller.tracker.current < step := by
        intro ahead
        have moved := Tracker.advance_eq_some_iff.mpr ⟨ahead, inRange, rfl⟩
        rw [stays] at moved
        cases moved
      exact (Nat.max_eq_left (Nat.le_of_not_lt notAhead)).symm

/-- An opening that has succeeded brings an owner of the progress to its last
step. -/
theorem current_takeTurn_connected (tracker : controller.tracker.OfStartup)
    (url : String) :
    (controller.takeTurn start attempt (.connected url)).tracker.current =
      if controller.owns attempt then Tracker.startedStep
      else controller.tracker.current := by
  have sameTracker : (controller.linked start url).tracker =
      controller.tracker :=
    tracker_teardown start
  rw [takeTurn_connected]
  split
  · have inRange : Tracker.startedStep <
        (controller.linked start url).tracker.steps.length := by
      rw [sameTracker, tracker.length]
      decide
    change ((controller.linked start url).advance start attempt.workspaceId
      Tracker.startedStep).tracker.current = _
    rw [current_advance inRange, sameTracker]
    exact Nat.max_eq_right tracker.current_le
  · exact congrArg Tracker.current ((tracker_teardown start).trans sameTracker)

/-! ## Climbing -/

/-- The steps that were announced as reached between two states lead from the
one position to the other. -/
def Climbs (before after : Controller) : Prop :=
  ∃ added, after.journal = added ++ before.journal ∧
    Ascends before.tracker.current (Entry.reached added) after.tracker.current

namespace Climbs

theorem of_plain {added : List Entry}
    (journal : next.journal = added ++ controller.journal)
    (plain : ∀ item ∈ added, item.deed.reached? = none)
    (position : next.tracker.current = controller.tracker.current) :
    Climbs controller next := by
  refine ⟨added, journal, ?_⟩
  rw [Entry.reached_eq_nil plain]
  exact position

theorem trans (first : Climbs controller middle) (second : Climbs middle next) :
    Climbs controller next := by
  obtain ⟨earlier, firstJournal, firstSteps⟩ := first
  obtain ⟨later, secondJournal, secondSteps⟩ := second
  refine ⟨later ++ earlier, ?_, ?_⟩
  · rw [secondJournal, firstJournal, List.append_assoc]
  · rw [Entry.reached_append]
    exact firstSteps.trans secondSteps

theorem le (climbs : Climbs controller next) :
    controller.tracker.current ≤ next.tracker.current := by
  obtain ⟨added, -, steps⟩ := climbs
  exact steps.le

theorem of_same (journal : next.journal = controller.journal)
    (tracker : next.tracker = controller.tracker) : Climbs controller next :=
  of_plain (journal.trans (List.nil_append _).symm) nofun (by rw [tracker])

theorem enter {deed : Deed} (plain : deed.reached? = none) :
    Climbs controller (controller.enter start deed) := by
  have journal : (controller.enter start deed).journal =
      [⟨start, controller.clock, deed⟩] ++ controller.journal := rfl
  exact of_plain journal (List.forall_mem_singleton.mpr plain) rfl

theorem teardown : Climbs controller (controller.teardown start) :=
  of_same (journal_teardown start) (tracker_teardown start)

theorem advance (step : Nat) :
    Climbs controller (controller.advance start id step) := by
  unfold Controller.advance
  split
  · next moved =>
      obtain ⟨ahead, -, rfl⟩ := Tracker.advance_eq_some_iff.mp moved
      exact ⟨[⟨start, controller.clock, .announced (.stepAdvanced id step)⟩],
        rfl, ahead, rfl⟩
  · exact of_same rfl rfl

theorem calm (calm : Calm controller next) : Climbs controller next := by
  obtain ⟨added, journal, plain⟩ := calm.journal
  refine of_plain journal ?_ calm.position
  exact fun item member => Deed.reached?_eq_none (plain item member)

theorem linked (url : String) :
    Climbs controller (controller.linked start url) :=
  ((enter rfl).trans teardown).trans (enter rfl)

theorem takeTurn_connected (url : String) :
    Climbs controller
      (controller.takeTurn start attempt (.connected url)) := by
  rw [Controller.takeTurn_connected]
  split
  · refine trans ?_ (of_same rfl rfl)
    exact (((linked url).trans (advance _)).trans (enter rfl)).trans (enter rfl)
  · exact ((linked url).trans teardown).trans (of_same rfl rfl)

theorem of_passes (passes : controller.Passes move next)
    (continues : move.isBeginning = false) : Climbs controller next := by
  cases passes with
  | begun => cases continues
  | calm _ _ calm => exact .calm calm
  | told _ _ _ calm => exact (advance _).trans (.calm calm)
  | connected => exact takeTurn_connected _

/-- Between two beginnings the progress moves forward alone. -/
theorem of_run (continues : ∀ move ∈ moves, move.isBeginning = false)
    (ran : controller.run? moves = some next) : Climbs controller next := by
  induction moves generalizing controller with
  | nil =>
      cases ran
      exact of_same rfl rfl
  | cons move moves induction =>
      obtain ⟨between, taken, rest⟩ := Option.bind_eq_some_iff.mp ran
      obtain ⟨first, others⟩ := List.forall_mem_cons.mp continues
      exact (of_passes (passes_of_step? taken) first).trans
        (induction others rest)

end Climbs

/-! ## What the position tells -/

/-- What the position of the current step tells of the latest start. -/
structure Truthful (config : Config) (moves : List Move)
    (controller : Controller) : Prop where
  arrived : controller.tracker.current = Tracker.startedStep ↔
    controller.Arrived
  told : Tracker.agentStep ≤ controller.tracker.current →
    controller.Arrived ∨ ∃ start, start + 1 = controller.starts.length ∧
      Delivered config moves ⟨start, .agent⟩

namespace Truthful

theorem new (config : Config) :
    Truthful config [] (Controller.new config) where
  arrived := by
    constructor
    · nofun
    · rintro ⟨start, latest, -⟩
      cases latest
  told := nofun

theorem begin (config : Config) (moves : List Move)
    (environment : String) :
    Truthful config moves (controller.begin id environment) := by
  have position : (controller.begin id environment).tracker.current = 0 := by
    rw [tracker_begin]
    rfl
  constructor
  · rw [position]
    constructor
    · intro impossible
      cases impossible
    · rintro ⟨start, latest, returned⟩
      rw [length_starts_begin] at latest
      rw [call?, getElem?_begin, if_pos (by omega)] at returned
      cases returned
  · intro beyond
    rw [position] at beyond
    cases beyond

/-- A move that moves no call to a success keeps what the position tells, if it
moves the position at most to the agent's step, and then by a message. -/
theorem of_same (truthful : Truthful config moves controller)
    (length : next.starts.length = controller.starts.length)
    (calls : ∀ {start}, start + 1 = controller.starts.length →
      (next.call? start = some (.returned (.ok ())) ↔
        controller.call? start = some (.returned (.ok ()))))
    (position : next.tracker.current = controller.tracker.current ∨
      next.tracker.current = max controller.tracker.current Tracker.agentStep ∧
        ∃ start, start + 1 = controller.starts.length ∧
          Delivered config (moves ++ [move]) ⟨start, .agent⟩) :
    Truthful config (moves ++ [move]) next := by
  have sameArrived : next.Arrived ↔ controller.Arrived := by
    unfold Arrived
    rw [length]
    refine exists_congr fun start => and_congr_right fun latest => ?_
    exact calls latest
  constructor
  · rw [sameArrived, ← truthful.arrived]
    rcases position with stays | ⟨moves, -⟩
    · rw [stays]
    · rw [moves, Tracker.agentStep, Tracker.startedStep]
      omega
  · intro beyond
    rw [sameArrived, length]
    rcases position with stays | ⟨-, delivered⟩
    · rw [stays] at beyond
      refine (truthful.told beyond).imp_right ?_
      rintro ⟨start, latest, delivered⟩
      exact ⟨start, latest, delivered.append [move]⟩
    · exact .inr delivered

theorem step (truthful : Truthful config moves controller)
    (ran : (Controller.new config).run? moves = some controller)
    (taken : controller.step? move = some next) :
    Truthful config (moves ++ [move]) next := by
  have reachable : Reachable config controller := Reachable.new.run ran
  have follows := reachable.follows taken
  have numbered := reachable.sound.numbered
  have lengths := reachable.length_starts_of_step? taken
  have stays {start : Nat}
      (returned : controller.call? start = some (.returned (.ok ()))) :
      next.call? start = some (.returned (.ok ())) :=
    follows.call?_of_ended returned nofun
  cases passes_of_step? taken with
  | begun id environment => exact .begin config _ environment
  | calm continues _ calm =>
      have length : next.starts.length = controller.starts.length := by
        simpa [beginnings, continues] using lengths
      exact truthful.of_same length (fun _ => ⟨calm.calls, stays⟩)
        (.inl calm.position)
  | @told move start entry next heard found owned calm =>
      have continues := (Move.plain_of_handler? heard).1
      have length : next.starts.length = controller.starts.length := by
        simpa [beginnings, continues] using lengths
      have inRange : Tracker.agentStep < controller.tracker.steps.length := by
        rw [reachable.sound.tracker.length]
        decide
      have latest := (numbered.owns_iff ⟨entry, found, rfl⟩).mp owned
      refine truthful.of_same length ?_ (.inr ⟨?_, start, latest, ?_⟩)
      · intro other _
        refine ⟨fun returned => ?_, stays⟩
        rw [← call?_advance Tracker.agentStep other]
        exact calm.calls returned
      · rw [calm.position, current_advance inRange]
      · exact ⟨moves, move, [], controller, rfl, ran, heard⟩
  | @connected start entry run found pending =>
      have length : (controller.takeTurn start entry.attempt
          (.connected run.url)).starts.length = controller.starts.length :=
        lengths
      have position := @current_takeTurn_connected _ start entry.attempt
        reachable.sound.tracker run.url
      have calls := @call?_takeTurn_connected controller start entry.attempt
        run.url
      by_cases owned : controller.owns entry.attempt = true
      · have latest := (numbered.owns_iff ⟨entry, found, rfl⟩).mp owned
        rw [if_pos owned] at position
        have arrived : (controller.takeTurn start entry.attempt
            (.connected run.url)).Arrived := by
          refine ⟨start, latest.trans length.symm, ?_⟩
          rw [calls, if_pos rfl, call?_of_found found, if_pos owned]
          rfl
        exact ⟨⟨fun _ => arrived, fun _ => position⟩, fun _ => .inl arrived⟩
      · rw [if_neg owned] at position
        refine truthful.of_same length ?_ (.inl position)
        intro other latest
        rw [calls, if_neg]
        rintro rfl
        exact owned ((numbered.owns_iff ⟨entry, found, rfl⟩).mpr latest)

theorem of_run (ran : (Controller.new config).run? moves = some controller) :
    Truthful config moves controller := by
  refine history_induction (Truthful config) (.new config) ?_ ran
  intro moves controller move next ran taken truthful
  exact truthful.step ran taken

end Truthful

/-- After every run the last step is current if and only if the call of the
latest start has returned a success, and any later step than the first only then
or after a message of its agent.  Until the next beginning the position climbs,
and the steps up to it bear their active labels. -/
theorem progress_tells_the_truth
    (ran : (Controller.new config).run? moves = some controller) :
    (controller.tracker.current = Tracker.startedStep ↔ controller.Arrived) ∧
    (Tracker.agentStep ≤ controller.tracker.current →
      controller.Arrived ∨ ∃ start, start + 1 = controller.starts.length ∧
        Delivered config moves ⟨start, .agent⟩) ∧
    (∀ later next, (∀ move ∈ later, move.isBeginning = false) →
      controller.run? later = some next →
      controller.tracker.current ≤ next.tracker.current ∧
        Climbs controller next) ∧
    ∀ step labels, Tracker.startupSteps[step]? = some labels →
      (controller.tracker.labelFor? step = some labels.activeLabel ↔
        step ≤ controller.tracker.current) ∧
      (controller.tracker.labelFor? step = some labels.label ↔
        controller.tracker.current < step) := by
  have truthful := Truthful.of_run ran
  refine ⟨truthful.arrived, truthful.told, ?_, ?_⟩
  · intro later next continues rest
    have climbs := Climbs.of_run continues rest
    exact ⟨climbs.le, climbs⟩
  · intro step labels found
    have tracker := (Reachable.new.run ran).sound.tracker
    have different : labels.label ≠ labels.activeLabel :=
      Tracker.label_ne_activeLabel labels (List.mem_of_getElem? found)
    rw [tracker.labelFor? found]
    by_cases reached : step ≤ controller.tracker.current
    · simp [reached, different.symm]
    · simp [reached, different, Nat.lt_of_not_le reached]

/-- The agent of a workspace tells a line, and its link is opened at once. -/
def startWithLine (id : WorkspaceId) : List Move :=
  [.begin id "", .started 0 (.ok ⟨id, []⟩), .fire 0 "line",
    .watched 0 (.ok ⟨id, .running, none⟩),
    .fetched 0 (.ok
      ⟨id, .running, ⟨"", ""⟩, [], some ⟨none, [startedMachine]⟩⟩),
    .linked 0 (.ok ())]

theorem progress_tells_the_truth_after_success :
    ∃ controller,
      (Controller.new ⟨1, 0, .fixedPort 1⟩).run? (startWithLine ⟨"w"⟩) =
        some controller ∧
      controller.Arrived ∧
      controller.tracker.labelFor? Tracker.startedStep = some "Opening" := by
  have stands : ((Controller.new ⟨1, 0, .fixedPort 1⟩).run?
      (startWithLine ⟨"w"⟩)).map (·.tracker.current) =
    some Tracker.startedStep := by
    decide +kernel
  obtain ⟨controller, ran, position⟩ := Option.map_eq_some_iff.mp stands
  obtain ⟨arrived, -, -, labels⟩ := progress_tells_the_truth ran
  refine ⟨controller, ran, arrived.mp position, ?_⟩
  exact (labels Tracker.startedStep _ rfl).1.mpr (Nat.le_of_eq position.symm)

end Controller

end WorkspaceStartup
