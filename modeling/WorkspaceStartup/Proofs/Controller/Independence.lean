import WorkspaceStartup.Proofs.Controller.Arrangement
import WorkspaceStartup.Proofs.Controller.Mirror
import WorkspaceStartup.Proofs.Controller.Report
import WorkspaceStartup.Proofs.Controller.Supersession

/-!
# Starts do not depend on the past

A start that begins after others takes the same course as the same start on a
new controller, when both are answered the same way: its moves do the same to
both, and what is still done on behalf of the earlier starts goes unnoticed.
-/

namespace WorkspaceStartup

/-- The move as it is made when the start does not stand behind others: the
moves of the others are left out. -/
def Move.alone? (start heard : Nat) : Move → Option Move
  | .begin _ _ => none
  | .tick milliseconds => some (.tick milliseconds)
  | .publish channel body => some (.publish channel body)
  | .fire position body =>
      if heard ≤ position then some (.fire (position - heard) body) else none
  | .drop other => if other = start then some (.drop 0) else none
  | .started other answer =>
      if other = start then some (.started 0 answer) else none
  | .watched other answer =>
      if other = start then some (.watched 0 answer) else none
  | .fetched other answer =>
      if other = start then some (.fetched 0 answer) else none
  | .linked other outcome =>
      if other = start then some (.linked 0 outcome) else none
  | .woken other => if other = start then some (.woken 0) else none
  | .withdrawn other => if other = start then some (.withdrawn 0) else none

theorem Move.alone?_arranged (start heard : Nat) (orders : Machine.Orders)
    (move : Move) :
    (move.arranged orders).alone? start heard =
      (move.alone? start heard).map (arranged orders) := by
  cases move with
  | begin | tick | publish => rfl
  | fire position =>
      by_cases later : heard ≤ position <;> simp [arranged, alone?, later]
  | drop other | started other | watched other | fetched other | linked other
  | woken other | withdrawn other =>
      by_cases own : other = start <;> simp [arranged, alone?, own]

theorem Move.filterMap_alone?_arranged (start heard : Nat)
    (orders : Machine.Orders) (moves : List Move) :
    (moves.map (arranged orders)).filterMap (alone? start heard) =
      (moves.filterMap (alone? start heard)).map (arranged orders) := by
  rw [List.filterMap_map, List.map_filterMap]
  exact List.filterMap_congr fun move _ => alone?_arranged start heard orders move

namespace Controller

variable {config : Config} {origin among alone next : Controller} {start : Nat}
  {handlers : List Handler} {past : List Entry} {moves : List Move}
  {move small : Move}

/-! ## The beginning -/

/-- A new controller that looks at a clock. -/
def newAt (config : Config) (clock : Nat) : Controller :=
  { Controller.new config with clock := clock }

theorem Reachable.config_eq (reachable : Reachable config origin) :
    origin.config = config := by
  refine reachable.invariant (fun controller => controller.config = config) rfl
    ?_ ?_ ?_ ?_
  · intro controller id environment _ same
    exact (config_begin controller id environment).trans same
  · intro controller milliseconds same
    exact same
  · intro start controller next _ act same
    exact act.within.config.trans same
  · intro start stage controller next _ _ change same
    exact change.within.config.trans same

/-- The entries of a beginning that are made on behalf of its own start. -/
def opening (controller : Controller) (id : WorkspaceId)
    (environment : String) : List Entry :=
  let start := controller.starts.length
  [⟨start, controller.clock, .askedStart id environment⟩,
    ⟨start, controller.clock, .announced (.listRefresh id)⟩,
    ⟨start, controller.clock, .announced (.recentUpdated id)⟩]

theorem journal_newAt_begin (config : Config) (clock : Nat) (id : WorkspaceId)
    (environment : String) :
    ((newAt config clock).begin id environment).journal =
      (newAt config clock).opening id environment :=
  journal_begin ..

theorem ofStart_begin (accounted : origin.Accounted) (id : WorkspaceId)
    (environment : String) :
    Entry.ofStart origin.starts.length (origin.begin id environment).journal =
      origin.opening id environment := by
  have others : ∀ item ∈ origin.supersession?.toList ++ origin.journal,
      item.start ≠ origin.starts.length := by
    intro item member
    rcases List.mem_append.mp member with announced | earlier
    · obtain ⟨start, entry, found, rfl⟩ := eq_of_mem_supersession? announced
      exact Nat.ne_of_lt (lt_length_of_found found)
    · exact Nat.ne_of_lt (accounted.known item earlier)
  simp only [journal_begin, Entry.ofStart_cons, if_true,
    Entry.ofStart_eq_nil others]
  rfl

/-- A start that begins after others mirrors one on a new controller. -/
theorem Mirrors.begin (reachable : Reachable config origin) (id : WorkspaceId)
    (environment : String) :
    Mirrors origin.starts.length origin.bus.history
      (origin.supersession?.toList ++ origin.journal)
      (origin.begin id environment)
      ((newAt config origin.clock).begin id environment) where
  config := by
    rw [config_begin, config_begin, reachable.config_eq]
    rfl
  generation := by
    rw [generation_begin, generation_begin, reachable.sound.numbered.generation]
    rfl
  stamp := by
    rw [stamp_begin, stamp_begin, reachable.sound.numbered.generation]
    rfl
  tracker := by
    rw [tracker_begin, tracker_begin,
      Tracker.reset_eq_startup reachable.sound.tracker.labels]
    exact (Tracker.reset_eq_startup Tracker.startup_ofStartup.labels).symm
  clock := by
    rw [clock_begin, clock_begin]
    rfl
  last := length_starts_begin origin id environment
  only := length_starts_begin (newAt config origin.clock) id environment
  record := by
    have first := getElem?_begin (newAt config origin.clock) id environment 0
    rw [getElem?_begin, if_pos rfl, first, newStart,
      reachable.sound.numbered.generation, reachable.config_eq]
    rfl
  bus := {
    handlers := by
      intro channel
      rw [reachable.owned.handler?_begin reachable.sound.numbered,
        Controller.handler?_begin]
      split <;> rfl
    history := by
      rw [history_begin, history_begin]
      exact (List.append_nil _).symm }
  own := by
    rw [ofStart_begin reachable.accounted, journal_newAt_begin]
    rfl
  events := by
    rw [journal_begin, journal_newAt_begin]
    simp only [Entry.events_cons, opening]
    rfl
  reports := by
    rw [journal_begin, journal_newAt_begin]
    simp only [Entry.reports_cons, opening]
    rfl
  openings := by
    rw [journal_begin, journal_newAt_begin]
    simp only [Entry.openings_cons, opening]
    rfl

/-! ## Moves of the start itself -/

theorem exists_of_rel {α β : Type} {related : α → β → Prop} {left : Option α}
    {right : Option β} {value : α} (rel : Option.Rel related left right)
    (isValue : left = some value) :
    ∃ other, right = some other ∧ related value other := by
  cases rel with
  | none => cases isValue
  | some holds =>
      cases isValue
      exact ⟨_, rfl, holds⟩

theorem isSome_eq_of_rel {α β : Type} {related : α → β → Prop} {left : Option α}
    {right : Option β} (rel : Option.Rel related left right) :
    left.isSome = right.isSome := by
  cases rel with
  | none => rfl
  | some => rfl

/-- The same test makes a move possible in both controllers. -/
theorem rel_ite {related : Controller → Controller → Prop} {condition : Prop}
    [Decidable condition] (holds : related among alone) :
    Option.Rel related (if condition then some among else none)
      (if condition then some alone else none) := by
  split
  · exact .some holds
  · exact .none

namespace Mirrors

variable (mirrors : Mirrors start handlers past among alone)

include mirrors

theorem pending?_eq :
    among.pending? start = (alone.pending? 0).map fun waiting =>
      (waiting.1.behind start, waiting.2) := by
  unfold Controller.pending?
  rw [mirrors.record]
  cases alone.starts[0]? with
  | none => rfl
  | some entry =>
      obtain ⟨attempt, environment, reported, call⟩ := entry
      cases call with
      | pending | returned | dropped => rfl

theorem call?_eq : among.call? start = alone.call? 0 := by
  rw [call?, mirrors.record, Option.map_map]
  rfl

theorem drop :
    Option.Rel (Mirrors start handlers past) (among.step? (.drop start))
      (alone.step? (.drop 0)) := by
  simp only [step?, mirrors.pending?_eq]
  cases alone.pending? 0 with
  | none => exact .none
  | some waiting => exact .some (mirrors.setCall .dropped)

theorem started (answer : Except ControlFailure StartResult) :
    Option.Rel (Mirrors start handlers past)
      (among.step? (.started start answer))
      (alone.step? (.started 0 answer)) := by
  simp only [step?, mirrors.pending?_eq]
  cases alone.pending? 0 with
  | none => exact .none
  | some waiting =>
      obtain ⟨attempt, stage⟩ := waiting
      cases stage with
      | starting => exact .some (mirrors.onStarted attempt answer)
      | watching | fetching | opening | waiting => exact .none

theorem watched (answer : Except ControlFailure StatusChange) :
    Option.Rel (Mirrors start handlers past)
      (among.step? (.watched start answer))
      (alone.step? (.watched 0 answer)) := by
  simp only [step?, mirrors.pending?_eq]
  cases alone.pending? 0 with
  | none => exact .none
  | some waiting =>
      obtain ⟨attempt, stage⟩ := waiting
      cases stage with
      | watching => exact .some (mirrors.onWatched attempt answer)
      | starting | fetching | opening | waiting => exact .none

theorem fetched (answer : Except ControlFailure Workspace) :
    Option.Rel (Mirrors start handlers past)
      (among.step? (.fetched start answer))
      (alone.step? (.fetched 0 answer)) := by
  simp only [step?, mirrors.pending?_eq]
  cases alone.pending? 0 with
  | none => exact .none
  | some waiting =>
      obtain ⟨attempt, stage⟩ := waiting
      cases stage with
      | fetching => exact .some (mirrors.onFetched attempt answer)
      | starting | watching | opening | waiting => exact .none

theorem linked (outcome : Except LinkFailure Unit) :
    Option.Rel (Mirrors start handlers past)
      (among.step? (.linked start outcome))
      (alone.step? (.linked 0 outcome)) := by
  simp only [step?, mirrors.pending?_eq]
  cases alone.pending? 0 with
  | none => exact .none
  | some waiting =>
      obtain ⟨attempt, stage⟩ := waiting
      cases stage with
      | opening run => exact .some (mirrors.takeTurn attempt _)
      | starting | watching | fetching | waiting => exact .none

theorem woken :
    Option.Rel (Mirrors start handlers past) (among.step? (.woken start))
      (alone.step? (.woken 0)) := by
  simp only [step?, mirrors.pending?_eq]
  cases alone.pending? 0 with
  | none => exact .none
  | some waiting =>
      obtain ⟨attempt, stage⟩ := waiting
      cases stage with
      | waiting run wakeTime =>
          simp only [Option.map_some, mirrors.clock, mirrors.isCurrent_behind]
          exact rel_ite (mirrors.takeTurn attempt _)
      | starting | watching | fetching | opening => exact .none

theorem withdrawn :
    Option.Rel (Mirrors start handlers past) (among.step? (.withdrawn start))
      (alone.step? (.withdrawn 0)) := by
  simp only [step?, mirrors.pending?_eq]
  cases alone.pending? 0 with
  | none => exact .none
  | some waiting =>
      obtain ⟨attempt, stage⟩ := waiting
      cases stage with
      | opening => exact .none
      | starting | watching | fetching | waiting =>
          exact rel_ite (mirrors.fail attempt .superseded)

theorem publish (channel body : String) :
    Mirrors start handlers past (among.publish channel body)
      (alone.publish channel body) := by
  unfold Controller.publish
  rw [mirrors.bus.handlers]
  cases alone.bus.handler? channel with
  | none => exact mirrors
  | some handler => exact mirrors.handle handler body

theorem fire (position : Nat) (body : String) :
    Mirrors start handlers past (among.fire (handlers.length + position) body)
      (alone.fire position body) := by
  unfold Controller.fire
  rw [mirrors.bus.history, List.getElem?_append_right (Nat.le_add_right ..),
    Nat.add_sub_cancel_left, List.getElem?_map]
  cases alone.bus.history[position]? with
  | none => exact mirrors
  | some handler => exact mirrors.handle handler body

/-- A move of the start is possible in both controllers or in neither, and does
the same to both. -/
theorem step? (projected : move.alone? start handlers.length = some small) :
    Option.Rel (Mirrors start handlers past) (among.step? move)
      (alone.step? small) := by
  cases move with
  | begin => cases projected
  | tick milliseconds =>
      cases projected
      refine .some { mirrors with clock := ?_ }
      exact congrArg (· + milliseconds) mirrors.clock
  | publish channel body =>
      cases projected
      exact .some (mirrors.publish channel body)
  | fire position body =>
      obtain ⟨heard, same⟩ := Option.ite_none_right_eq_some.mp projected
      cases same
      obtain ⟨later, rfl⟩ := Nat.exists_eq_add_of_le heard
      rw [Nat.add_sub_cancel_left]
      exact .some (mirrors.fire later body)
  | drop other =>
      obtain ⟨rfl, same⟩ := Option.ite_none_right_eq_some.mp projected
      cases same
      exact mirrors.drop
  | started other answer =>
      obtain ⟨rfl, same⟩ := Option.ite_none_right_eq_some.mp projected
      cases same
      exact mirrors.started answer
  | watched other answer =>
      obtain ⟨rfl, same⟩ := Option.ite_none_right_eq_some.mp projected
      cases same
      exact mirrors.watched answer
  | fetched other answer =>
      obtain ⟨rfl, same⟩ := Option.ite_none_right_eq_some.mp projected
      cases same
      exact mirrors.fetched answer
  | linked other outcome =>
      obtain ⟨rfl, same⟩ := Option.ite_none_right_eq_some.mp projected
      cases same
      exact mirrors.linked outcome
  | woken other =>
      obtain ⟨rfl, same⟩ := Option.ite_none_right_eq_some.mp projected
      cases same
      exact mirrors.woken
  | withdrawn other =>
      obtain ⟨rfl, same⟩ := Option.ite_none_right_eq_some.mp projected
      cases same
      exact mirrors.withdrawn

/-- A change on behalf of another start that goes unnoticed does not disturb
the start. -/
theorem unnoticed {other : Nat} (different : other ≠ start)
    (within : Within other among next) (silent : Silent among next) :
    Mirrors start handlers past next alone where
  config := within.config.trans mirrors.config
  generation := within.generation.trans mirrors.generation
  stamp := within.stamp.trans mirrors.stamp
  tracker := silent.tracker.trans mirrors.tracker
  clock := within.clock.trans mirrors.clock
  last := within.length.trans mirrors.last
  only := mirrors.only
  record := (within.others different.symm).trans mirrors.record
  bus := silent.bus.symm ▸ mirrors.bus
  own := by
    obtain ⟨added, journal, others⟩ := within.journal
    have notOwn : Entry.ofStart start added = [] :=
      Entry.ofStart_eq_nil fun item member =>
        (others item member).symm ▸ different
    rw [journal, Entry.ofStart_append, notOwn, List.nil_append, mirrors.own]
  events := silent.events.trans mirrors.events
  reports := silent.reports.trans mirrors.reports
  openings := silent.openings.trans mirrors.openings

/-- A move that the start alone does not make is one of an earlier start. -/
theorem actor?_of_alone? (earlier : ∀ handler ∈ handlers, handler.start < start)
    (continues : move.isBeginning = false)
    (projected : move.alone? start handlers.length = none)
    (taken : among.step? move = some next) :
    ∃ other, move.actor? among = some other ∧ other < start := by
  have waiting {other : Nat} (different : other ≠ start)
      (waits : among.pending? other ≠ none) : other < start := by
    have inRange := lt_length_of_pending? waits
    rw [mirrors.last] at inRange
    omega
  cases move with
  | begin => cases continues
  | tick => cases projected
  | publish => cases projected
  | fire position body =>
      have early : position < handlers.length := by
        simpa [Move.alone?] using projected
      have known := List.getElem?_eq_getElem early
      refine ⟨handlers[position].start, ?_, earlier _ (List.getElem_mem early)⟩
      rw [Move.actor?, mirrors.bus.history, List.getElem?_append_left early,
        known]
      rfl
  | drop other | started other | watched other | fetched other | linked other
  | woken other | withdrawn other =>
      refine ⟨other, rfl, waiting (by simpa [Move.alone?] using projected) ?_⟩
      intro none
      simp [Controller.step?, none] at taken

theorem skip (reachable : Reachable config among)
    (earlier : ∀ handler ∈ handlers, handler.start < start)
    (continues : move.isBeginning = false)
    (projected : move.alone? start handlers.length = none)
    (taken : among.step? move = some next) :
    Mirrors start handlers past next alone := by
  obtain ⟨other, actor, isEarlier⟩ :=
    mirrors.actor?_of_alone? earlier continues projected taken
  have follows := reachable.follows taken
  have late : among.Superseded other := by
    rw [Superseded, mirrors.last]
    omega
  exact mirrors.unnoticed (Nat.ne_of_lt isEarlier) (follows.within actor)
    (follows.silent reachable.sound reachable.owned actor late)

/-- A run without a further beginning does to the start what its own moves do
to the start alone. -/
theorem run (reachable : Reachable config among)
    (earlier : ∀ handler ∈ handlers, handler.start < start)
    (continues : ∀ move ∈ moves, move.isBeginning = false)
    (ran : among.run? moves = some next) :
    ∃ last, alone.run? (moves.filterMap (Move.alone? start handlers.length)) =
        some last ∧
      Mirrors start handlers past next last := by
  induction moves generalizing among alone with
  | nil =>
      cases ran
      exact ⟨alone, rfl, mirrors⟩
  | cons move moves induction =>
      obtain ⟨between, taken, rest⟩ := Option.bind_eq_some_iff.mp ran
      obtain ⟨first, others⟩ := List.forall_mem_cons.mp continues
      have stillReachable : Reachable config between :=
        .step move reachable taken
      cases projected : move.alone? start handlers.length with
      | none =>
          -- An earlier start moves, and nobody notices.
          rw [List.filterMap_cons_none projected]
          exact induction (mirrors.skip reachable earlier first projected taken)
            stillReachable others rest
      | some small =>
          rw [List.filterMap_cons_some projected]
          obtain ⟨betweenAlone, takenAlone, stillMirrors⟩ :=
            exists_of_rel (mirrors.step? projected) taken
          obtain ⟨last, ranAlone, lastMirrors⟩ :=
            induction stillMirrors stillReachable others rest
          refine ⟨last, ?_, lastMirrors⟩
          rw [run?, takenAlone]
          exact ranAlone

end Mirrors

/-- A start that begins in any reachable state takes the same course as on a new
controller that has waited as long, whatever is still done on behalf of the
starts before it, and in whatever orders details are read.  Its call, the
progress, its channels and its own entries in the journal are the same, and its
own moves are possible in both or in neither.  All that is announced besides is
that the start before it is superseded. -/
theorem start_is_independent_of_the_past (reachable : Reachable config origin)
    (orders : Machine.Orders) (id : WorkspaceId) (environment : String)
    (continues : ∀ move ∈ moves, move.isBeginning = false)
    (ran : (origin.begin id environment).runIn? orders moves = some among) :
    ∃ alone,
      (Controller.new config).runIn? orders
          (.tick origin.clock :: .begin id environment ::
            moves.filterMap (Move.alone? origin.starts.length
              origin.bus.history.length)) = some alone ∧
      among.call? origin.starts.length = alone.call? 0 ∧
      among.tracker = alone.tracker ∧
      (∀ channel, among.bus.handler? channel =
        (alone.bus.handler? channel).map
          (Handler.behind origin.starts.length)) ∧
      Entry.ofStart origin.starts.length among.journal =
        alone.journal.map (Entry.behind origin.starts.length) ∧
      Entry.reports among.journal =
        Entry.reports alone.journal ++ Entry.reports origin.journal ∧
      Entry.events among.journal = Entry.events alone.journal ++
        Entry.events (origin.supersession?.toList ++ origin.journal) ∧
      Entry.openings among.journal =
        Entry.openings alone.journal ++ Entry.openings origin.journal ∧
      (∀ move small,
        move.alone? origin.starts.length origin.bus.history.length =
          some small →
        (among.stepIn? orders move).isSome =
          (alone.stepIn? orders small).isSome) := by
  have begun := Mirrors.begin reachable id environment
  have reachableBegun : Reachable config (origin.begin id environment) :=
    .step (.begin id environment) reachable rfl
  have stillContinues : ∀ move ∈ moves.map (Move.arranged orders),
      move.isBeginning = false := by
    simpa using continues
  rw [runIn?_eq] at ran
  obtain ⟨alone, ranAlone, mirrors⟩ :=
    begun.run reachableBegun reachable.owned.known stillContinues ran
  rw [Move.filterMap_alone?_arranged, ← runIn?_eq] at ranAlone
  refine ⟨alone, ?_, mirrors.call?_eq, mirrors.tracker, mirrors.bus.handlers,
    mirrors.own, ?_, mirrors.events, ?_, ?_⟩
  · have waited : (Controller.new config).stepIn? orders (.tick origin.clock) =
        some (newAt config origin.clock) :=
      congrArg (fun clock => some (newAt config clock)) (Nat.zero_add _)
    rw [runIn?, waited]
    exact ranAlone
  · rw [mirrors.reports, Entry.reports_append_of_none]
    intro item announced
    obtain ⟨start, entry, -, rfl⟩ := eq_of_mem_supersession? announced
    rfl
  · rw [mirrors.openings, Entry.openings_append_of_none]
    intro item announced
    obtain ⟨start, entry, -, rfl⟩ := eq_of_mem_supersession? announced
    rfl
  · intro move small projected
    have arranged : (move.arranged orders).alone? origin.starts.length
        origin.bus.history.length = some (small.arranged orders) := by
      rw [Move.alone?_arranged, projected, Option.map_some]
    rw [stepIn?_eq, stepIn?_eq]
    exact isSome_eq_of_rel (mirrors.step? arranged)

/-- A start behind one of another workspace, which learns in between that it is
superseded. -/
theorem start_is_independent_of_the_past_of_another_workspace :
    ∃ origin among alone,
      (Controller.new ⟨1, 0, .agentServer⟩).run?
          [.begin ⟨"v"⟩ "", .started 0 (.ok ⟨⟨"v"⟩, []⟩)] = some origin ∧
      (origin.begin ⟨"w"⟩ "").runIn? Machine.Enumeration.reversed
          [.withdrawn 0, .started 1 (.ok ⟨⟨"w"⟩, []⟩)] = some among ∧
      (Controller.new ⟨1, 0, .agentServer⟩).runIn? Machine.Enumeration.reversed
          [.tick 0, .begin ⟨"w"⟩ "", .started 0 (.ok ⟨⟨"w"⟩, []⟩)] =
        some alone ∧
      among.call? 1 = alone.call? 0 ∧ among.tracker = alone.tracker := by
  have ranOrigin : (Controller.new ⟨1, 0, .agentServer⟩).run?
      [.begin ⟨"v"⟩ "", .started 0 (.ok ⟨⟨"v"⟩, []⟩)] = some _ := rfl
  have independent := @start_is_independent_of_the_past _ _ _
    [.withdrawn 0, .started 1 (.ok ⟨⟨"w"⟩, []⟩)] (Reachable.new.run ranOrigin)
    Machine.Enumeration.reversed ⟨"w"⟩ "" (by decide) rfl
  obtain ⟨alone, ranAlone, sameCall, sameTracker, -⟩ := independent
  exact ⟨_, _, alone, ranOrigin, rfl, ranAlone, sameCall, sameTracker⟩

end Controller

end WorkspaceStartup
