import WorkspaceStartup.Proofs.Controller.Ownership

/-!
# Superseded starts

Once a later start has begun, nothing that is done on behalf of an earlier one
is noticed: neither the progress nor the bus changes, no event is announced, no
error reported, and the link is not opened again.  All that is left to the call
of the earlier start is to return and to say that it was superseded.
-/

namespace WorkspaceStartup

namespace Controller

variable {config : Config} {controller middle next : Controller} {start : Nat}
  {attempt : Attempt} {moves : List Move} {move : Move}
  {result : Except StartFailure Unit}

/-- Nobody notices the change. -/
structure Silent (before after : Controller) : Prop where
  tracker : after.tracker = before.tracker
  bus : after.bus = before.bus
  events : Entry.events after.journal = Entry.events before.journal
  reports : Entry.reports after.journal = Entry.reports before.journal
  openings : Entry.openings after.journal = Entry.openings before.journal

namespace Silent

theorem refl (controller : Controller) : Silent controller controller :=
  ⟨rfl, rfl, rfl, rfl, rfl⟩

theorem trans (first : Silent controller middle) (second : Silent middle next) :
    Silent controller next where
  tracker := second.tracker.trans first.tracker
  bus := second.bus.trans first.bus
  events := second.events.trans first.events
  reports := second.reports.trans first.reports
  openings := second.openings.trans first.openings

theorem enter (controller : Controller) (start : Nat) {deed : Deed}
    (quiet : deed.Quiet) : Silent controller (controller.enter start deed) where
  tracker := rfl
  bus := rfl
  events := by simp [Entry.events, Controller.enter, quiet.1]
  reports := by simp [Entry.reports, Controller.enter, quiet.2.1]
  openings := by simp [Entry.openings, Controller.enter, quiet.2.2]

theorem changeStart (controller : Controller) (start : Nat)
    (change : Start → Start) :
    Silent controller (controller.changeStart start change) :=
  ⟨rfl, rfl, rfl, rfl, rfl⟩

end Silent

/-- A later start has begun. -/
def Superseded (controller : Controller) (start : Nat) : Prop :=
  start + 1 < controller.starts.length

theorem Superseded.not_owns (late : controller.Superseded start)
    (numbered : controller.Numbered) (runs : controller.Runs start attempt) :
    controller.owns attempt ≠ true := by
  intro owns
  have latest := (numbered.owns_iff runs).mp owns
  exact Nat.ne_of_lt late latest

theorem Superseded.not_isCurrent (late : controller.Superseded start)
    (numbered : controller.Numbered) (runs : controller.Runs start attempt) :
    controller.isCurrent attempt ≠ true := by
  intro current
  have latest := (numbered.isCurrent_iff runs).mp current
  exact Nat.ne_of_lt late latest

theorem Superseded.within (late : controller.Superseded start) {actor : Nat}
    (within : Within actor controller next) : next.Superseded start := by
  rw [Superseded, within.length]
  exact late

theorem Superseded.step (late : controller.Superseded start)
    (reachable : Reachable config controller)
    (taken : controller.step? move = some next) : next.Superseded start := by
  have length := reachable.length_starts_of_step? taken
  rw [Superseded] at late ⊢
  omega

theorem Act.silent (act : Act start controller next)
    (numbered : controller.Numbered) (owned : controller.Owned)
    (late : controller.Superseded start) : Silent controller next := by
  cases act with
  | shown shows =>
      cases shows with
      | advanced runs owns | logged runs owns | relogged runs owns
      | marked runs owns => exact (late.not_owns numbered runs owns).elim
      | reported report found owns =>
          exact (late.not_owns numbered ⟨_, found, rfl⟩ owns).elim
  | noted deed _ quiet => exact .enter controller start quiet
  | tried run runs current =>
      exact (late.not_isCurrent numbered runs current).elim
  | tornDown found =>
      -- The attempt holds no channel any more, so nothing is unsubscribed.
      have empty := owned.older (channels?_of_found found) late
      rw [teardown_eq found]
      exact ⟨rfl, by simp [putAttempt, Attempt.teardown, empty], rfl, rfl, rfl⟩
  | subscribed found _ accepted =>
      obtain ⟨current, -⟩ := subscribeChannels?_eq_some_iff.mp accepted
      exact (late.not_isCurrent numbered ⟨_, found, rfl⟩ current).elim

theorem silent_of_acts (acts : Acts start controller next)
    (sound : controller.Sound) (owned : controller.Owned)
    (late : controller.Superseded start) : Silent controller next := by
  have kept : Silent controller next ∧ next.Owned := by
    induction acts with
    | refl => exact ⟨.refl controller, owned⟩
    | tail earlier last induction =>
        obtain ⟨silent, stillOwned⟩ := induction
        have numbered := (sound.acts earlier).numbered
        have stillLate := late.within (within_of_acts earlier)
        exact ⟨silent.trans (last.silent numbered stillOwned stillLate),
          stillOwned.act numbered last⟩
  exact kept.1

theorem CallChange.silent (change : CallChange start controller next)
    (numbered : controller.Numbered) (late : controller.Superseded start) :
    Silent controller next := by
  cases change with
  | waits | leaves | yields => exact .changeStart controller start _
  | fails runs owns | succeeds _ runs owns =>
      exact (late.not_owns numbered runs owns).elim

/-- Whatever is done on behalf of a superseded start goes unnoticed. -/
theorem Follows.silent (follows : controller.Follows move next)
    (sound : controller.Sound) (owned : controller.Owned)
    (actor : move.actor? controller = some start)
    (late : controller.Superseded start) : Silent controller next := by
  cases follows with
  | begun | passed => cases actor
  | unheard => exact .refl controller
  | heard actor' shows =>
      cases actor.symm.trans actor'
      exact silent_of_acts (acts_of_shows shows) sound owned late
  | carried actor' _ carries =>
      cases actor.symm.trans actor'
      obtain ⟨middle, acts, change⟩ := carries
      exact (silent_of_acts acts sound owned late).trans
        (change.silent (sound.acts acts).numbered
          (late.within (within_of_acts acts)))

/-- A call that returns says that its start is superseded exactly when it is. -/
theorem Follows.superseded_iff {stage : Stage}
    (follows : controller.Follows move next) (sound : controller.Sound)
    (pending : controller.call? start = some (.pending stage))
    (returned : next.call? start = some (.returned result)) :
    result = .error .superseded ↔ controller.Superseded start := by
  obtain ⟨middle, acts, change⟩ := follows.returning pending returned
  have numbered := (sound.acts acts).numbered
  have length := (within_of_acts acts).length
  rw [Superseded, ← length]
  cases change with
  | waits => cases eq_of_call?_setCall returned
  | leaves => cases eq_of_call?_setCall returned
  | yields runs late =>
      -- The latest start is current and owns the progress, so this one is not it.
      cases eq_of_call?_setCall returned
      have inRange := runs.lt_length
      have notLatest : start + 1 ≠ middle.starts.length := by
        intro latest
        rcases late with stale | disowned
        · rw [(numbered.isCurrent_iff runs).mpr latest] at stale
          cases stale
        · rw [(numbered.owns_iff runs).mpr latest] at disowned
          cases disowned
      exact iff_of_true rfl (by omega)
  | fails runs owns final =>
      cases eq_of_call?_setCall returned
      have latest := (numbered.owns_iff runs).mp owns
      refine iff_of_false ?_ (by omega)
      rintro ⟨⟩
      cases final
  | succeeds url runs owns =>
      cases eq_of_call?_setCall returned
      have latest := (numbered.owns_iff runs).mp owns
      exact iff_of_false nofun (by omega)

/-- In every run, what is done on behalf of a start goes unnoticed from the
moment a later start has begun; and a call that returns says that its start is
superseded if and only if a later start had begun before. -/
theorem superseded_starts_are_silent
    (ran : (Controller.new config).run? moves = some controller) :
    (∀ move next start, controller.step? move = some next →
      move.actor? controller = some start → start + 1 < beginnings moves →
      Silent controller next) ∧
    (∀ start result, controller.call? start = some (.returned result) →
      Nonempty (Return config moves start result) ∧
      ∀ moment : Return config moves start result,
        result = .error .superseded ↔
          start + 1 < beginnings moment.earlier) := by
  have reachable : Reachable config controller := Reachable.new.run ran
  constructor
  · intro move next start taken actor late
    rw [← length_starts_of_run ran] at late
    exact (reachable.follows taken).silent reachable.sound reachable.owned actor
      late
  · intro start result returned
    refine ⟨Return.of_run ran returned, fun moment => ?_⟩
    have before : Reachable config moment.before := Reachable.new.run moment.ran
    obtain ⟨stage, pending⟩ := moment.pending
    rw [← length_starts_of_run moment.ran]
    exact (before.follows moment.taken).superseded_iff before.sound pending
      moment.returned

/-- A late message for the first of two starts, whose call has returned by
then. -/
theorem superseded_starts_are_silent_after_restart :
    ∃ controller next,
      (Controller.new ⟨1, 0, .agentServer⟩).run? (restart ⟨"w"⟩) =
        some controller ∧
      controller.step? (.fire 0 "late") = some next ∧
      Silent controller next ∧
      Nonempty (Return ⟨1, 0, .agentServer⟩ (restart ⟨"w"⟩) 0
        (.error .superseded)) := by
  have ran : (Controller.new ⟨1, 0, .agentServer⟩).run? (restart ⟨"w"⟩) =
      some _ := rfl
  have silent := superseded_starts_are_silent ran
  refine ⟨_, _, ran, rfl, ?_, (silent.2 0 _ rfl).1⟩
  exact silent.1 (.fire 0 "late") _ 0 rfl (by decide +kernel) (by decide)

end Controller

end WorkspaceStartup
