import WorkspaceStartup.Proofs.Controller.Recount
import WorkspaceStartup.Proofs.Controller.Report

/-!
# Messages after a call has returned

A handler may be called when its channel was given up long ago, and its start
owns the progress until a later start begins, also when its call has returned.
Until then a late message still changes the steps that are shown, and announces
each change; but the bus and the calls stay as they are, and a start that has
returned a failure reports nothing more.  From the beginning of a later start
on, no message for the earlier one is noticed.
-/

namespace WorkspaceStartup

/-- The deed opens no link, and what it announces is a change of a step. -/
def Deed.OfSteps (deed : Deed) : Prop :=
  deed.openedUrl? = none ∧
    ∀ event, deed.event? = some event → event.isStep = true

namespace Controller

variable {config : Config} {controller next : Controller} {start : Nat}
  {entry : Start} {move : Move} {result : Except StartFailure Unit}
  {failure : StartFailure}

/-! ## What a returned failure says -/

theorem Follows.exists_journal (follows : controller.Follows move next) :
    ∃ added, next.journal = added ++ controller.journal := by
  cases follows with
  | begun id environment =>
      obtain ⟨added, journal, -⟩ :=
        exists_journal_begin controller id environment
      exact ⟨added, journal⟩
  | passed | unheard => exact ⟨[], rfl⟩
  | heard _ shows =>
      obtain ⟨added, journal, -⟩ := (within_of_shows shows).journal
      exact ⟨added, journal⟩
  | carried _ _ carries =>
      obtain ⟨middle, acts, change⟩ := carries
      obtain ⟨added, journal, -⟩ :=
        ((within_of_acts acts).trans change.within).journal
      exact ⟨added, journal⟩

/-- A later start has begun, or an error was reported on behalf of the start. -/
structure Explained (controller : Controller) (start : Nat)
    (failure : StartFailure) : Prop where
  superseded : failure = .superseded → controller.Superseded start
  reported : failure ≠ .superseded →
    Entry.select Deed.report? start controller.journal ≠ []

theorem Explained.step (explained : controller.Explained start failure)
    (reachable : Reachable config controller)
    (taken : controller.step? move = some next) :
    next.Explained start failure where
  superseded := fun superseded =>
    (explained.superseded superseded).step reachable taken
  reported := by
    intro final
    obtain ⟨added, journal⟩ := (reachable.follows taken).exists_journal
    rw [journal, Entry.select_append]
    exact List.append_ne_nil_of_right_ne_nil _ (explained.reported final)

/-- A call returns a failure when its start is superseded, or after it has
reported an error. -/
theorem Reachable.explained (reachable : Reachable config controller)
    (returned : controller.call? start = some (.returned (.error failure))) :
    controller.Explained start failure := by
  induction reachable with
  | new => cases returned
  | @step controller next move before taken induction =>
      have follows := before.follows taken
      rcases follows.pending_or_returned returned with ⟨stage, pending⟩ | stays
      · -- This is the move with which the call returns.
        constructor
        · rintro rfl
          have late := (follows.superseded_iff before.sound pending
            returned).mp rfl
          exact late.step before taken
        · intro final none
          have accounted := (Reachable.step move before taken).accounted
          obtain ⟨entry, -, told, reported, -⟩ :=
            follows.failing accounted pending returned final
          have once := told.reports
          rw [none, reported] at once
          cases once
      · exact (induction stays).step before taken

/-! ## Messages -/

/-- Once the call of a start is over, nothing but messages is left of it. -/
theorem Follows.showing_of_returned (follows : controller.Follows move next)
    (actor : move.actor? controller = some start)
    (returned : controller.call? start = some (.returned result)) :
    Showing start controller next := by
  cases follows with
  | begun | passed => cases actor
  | unheard => exact .refl
  | heard isActor shows =>
      cases actor.symm.trans isActor
      exact shows
  | carried isActor pending =>
      cases actor.symm.trans isActor
      rw [returned] at pending
      cases pending

theorem Shows.exists_item (shows : Shows start controller next) :
    ∃ item, next.journal = item :: controller.journal ∧ item.start = start ∧
      item.deed.OfSteps := by
  cases shows with
  | advanced | logged | relogged | marked =>
      refine ⟨_, rfl, rfl, rfl, ?_⟩
      rintro event ⟨⟩
      rfl
  | reported => exact ⟨_, rfl, rfl, rfl, nofun⟩

theorem exists_journal_of_shows (shows : Showing start controller next) :
    ∃ added, next.journal = added ++ controller.journal ∧
      ∀ item ∈ added, item.start = start ∧ item.deed.OfSteps := by
  induction shows with
  | refl => exact ⟨[], rfl, nofun⟩
  | tail _ last induction =>
      obtain ⟨added, journal, others⟩ := induction
      obtain ⟨item, lastJournal, own⟩ := last.exists_item
      refine ⟨item :: added, ?_, List.forall_mem_cons.mpr ⟨own, others⟩⟩
      rw [lastJournal, journal]
      rfl

/-- Nothing but the steps has changed, and what was announced tells how. -/
structure OnlySteps (id : WorkspaceId) (before after : Controller) : Prop where
  bus : after.bus = before.bus
  calls : ∀ start, after.call? start = before.call? start
  openings : Entry.openings after.journal = Entry.openings before.journal
  told : ∃ added, after.journal = added ++ before.journal ∧
    after.tracker = before.tracker.replay (Entry.events added).reverse ∧
    ∀ event ∈ Entry.events added,
      event.isStep = true ∧ event.workspaceId = id

theorem onlySteps_of_shows (shows : Showing start controller next)
    (found : controller.starts[start]? = some entry)
    (answered : ¬ controller.Unanswered start) :
    OnlySteps entry.attempt.workspaceId controller next := by
  obtain ⟨added, journal, ofSteps⟩ := exists_journal_of_shows shows
  refine ⟨bus_eq_of_shows shows, call?_eq_of_acts (acts_of_shows shows), ?_, ?_⟩
  · rw [journal, Entry.openings_append_of_none]
    exact fun item member => (ofSteps item member).2.1
  · obtain ⟨told, sameJournal, tracker, own⟩ :=
      recounts_of_acts (acts_of_shows shows) ⟨entry, found, rfl⟩ answered
    refine ⟨told, sameJournal, tracker, fun event member => ?_⟩
    have isStep : event.isStep = true := by
      obtain ⟨item, isItem, isEvent⟩ := List.mem_filterMap.mp member
      have same : told = added :=
        List.append_cancel_right (sameJournal.symm.trans journal)
      exact (ofSteps item (same ▸ isItem)).2.2 event isEvent
    exact ⟨isStep, own event member isStep⟩

/-- A start that has made its report makes no other. -/
theorem reports_of_shows (shows : Showing start controller next)
    (once : (Entry.select Deed.report? start next.journal).length ≤ 1)
    (reported : Entry.select Deed.report? start controller.journal ≠ []) :
    Entry.reports next.journal = Entry.reports controller.journal := by
  obtain ⟨added, journal, own⟩ := exists_journal_of_shows shows
  rw [journal, Entry.select_append, List.length_append] at once
  have positive := List.length_pos_iff.mpr reported
  have nothing : Entry.select Deed.report? start added = [] :=
    List.length_eq_zero_iff.mp (by omega)
  rw [journal, Entry.reports_append_of_none]
  exact fun item member =>
    Entry.eq_none_of_select_eq_nil nothing member (own item member).1

/-- What a message does whose start has ended its call, delivered on time or
late.  Before a later start begins, it changes at most the steps that are shown,
each with its announcement, and it reports nothing after a failure; afterwards
nobody notices it. -/
theorem messages_after_return (reachable : Reachable config controller)
    (found : controller.starts[start]? = some entry)
    (returned : entry.call = .returned result)
    (actor : move.actor? controller = some start)
    (taken : controller.step? move = some next) :
    (result = .error .superseded → controller.Superseded start) ∧
      (controller.Superseded start → Silent controller next) ∧
      OnlySteps entry.attempt.workspaceId controller next ∧
      (∀ failure, result = .error failure →
        Entry.reports next.journal = Entry.reports controller.journal) ∧
      (Entry.select Deed.report? start next.journal).length ≤ 1 := by
  have call : controller.call? start = some (.returned result) :=
    (call?_of_found found).trans (congrArg some returned)
  have follows := reachable.follows taken
  have shows := follows.showing_of_returned actor call
  have once := (Reachable.step move reachable taken).accounted.length_reports_le
    start
  have silent : controller.Superseded start → Silent controller next :=
    follows.silent reachable.sound reachable.owned actor
  refine ⟨?_, silent, onlySteps_of_shows shows found ?_, ?_, once⟩
  · rintro rfl
    exact (reachable.explained call).superseded rfl
  · intro unanswered
    rw [Unanswered, call] at unanswered
    cases unanswered
  · rintro failure rfl
    by_cases superseded : failure = .superseded
    · exact (silent ((reachable.explained call).superseded superseded)).reports
    · exact reports_of_shows shows once
        ((reachable.explained call).reported superseded)

theorem messages_after_return_of_failed_start :
    ∃ controller next,
      (Controller.new ⟨1, 0, .agentServer⟩).run? (failedStart ⟨"w"⟩) =
        some controller ∧
      controller.step? (.fire 0 "late") = some next ∧
      OnlySteps ⟨"w"⟩ controller next ∧
      Entry.reports next.journal = Entry.reports controller.journal := by
  have ran : (Controller.new ⟨1, 0, .agentServer⟩).run? (failedStart ⟨"w"⟩) =
      some _ := rfl
  obtain ⟨-, -, onlySteps, reports, -⟩ :=
    @messages_after_return _ _ _ 0 _ (.fire 0 "late") _
      (Reachable.new.run ran) rfl rfl rfl rfl
  exact ⟨_, _, ran, rfl, onlySteps, reports _ rfl⟩

/-- After the start has failed, a late message of its agent still moves the
progress. -/
theorem message_is_shown_after_failure :
    ∃ controller next,
      (Controller.new ⟨1, 0, .agentServer⟩).run? (failedStart ⟨"w"⟩) =
        some controller ∧
      controller.call? 0 =
        some (.returned (.error (.ofStatusError (some "no memory")))) ∧
      controller.step? (.fire 0 "late") = some next ∧
      controller.tracker.current = 0 ∧ next.tracker.current = 1 ∧
      Entry.events next.journal =
        .stepLogged ⟨"w"⟩ 1 "late" :: .stepAdvanced ⟨"w"⟩ 1 ::
          Entry.events controller.journal :=
  ⟨_, _, rfl, rfl, rfl, rfl, rfl, rfl⟩

end Controller

end WorkspaceStartup
