import WorkspaceStartup.Proofs.Controller.Beginning
import WorkspaceStartup.Proofs.Controller.Course

/-!
# One current generation

Starts are numbered in the order of their beginning, and the generation of a
start's attempt is its number.  The latest start is the active one; it alone
owns the progress, and the attempts of all others are cancelled.  This holds in
every reachable state, and with it an invariant needs to be looked at only for
beginnings, acts, and changes of a call (`Reachable.invariant`).
-/

namespace WorkspaceStartup

namespace Controller

/-- The generations are those of the starts in their order. -/
structure Numbered (controller : Controller) : Prop where
  stamp : controller.stamp = controller.generation
  generation : controller.generation = controller.starts.length
  active : ∀ start,
    controller.active = some start ↔ start + 1 = controller.starts.length
  attempt : ∀ {start entry}, controller.starts[start]? = some entry →
    entry.attempt.generation = start + 1 ∧
      (entry.attempt.cancelled = true ↔ start + 1 < controller.starts.length)

variable {config : Config} {controller next : Controller} {start : Nat}
  {attempt : Attempt} {moves : List Move} {move : Move}

theorem lt_length_of_found {entry : Start}
    (found : controller.starts[start]? = some entry) :
    start < controller.starts.length :=
  (List.getElem?_eq_some_iff.mp found).1

theorem lt_length_of_pending? (waits : controller.pending? start ≠ none) :
    start < controller.starts.length := by
  refine Nat.lt_of_not_le fun beyond => waits ?_
  simp [Controller.pending?, List.getElem?_eq_none beyond]

theorem Runs.lt_length (runs : controller.Runs start attempt) :
    start < controller.starts.length := by
  obtain ⟨entry, found, -⟩ := runs
  exact lt_length_of_found found

namespace Numbered

theorem new (config : Config) : (Controller.new config).Numbered where
  stamp := rfl
  generation := rfl
  active := by simp [Controller.new]
  attempt := by simp [Controller.new]

theorem runs (numbered : controller.Numbered)
    (runs : controller.Runs start attempt) :
    attempt.generation = start + 1 ∧
      (attempt.cancelled = true ↔ start + 1 < controller.starts.length) := by
  obtain ⟨entry, found, same⟩ := runs
  have sameGeneration : entry.attempt.generation = attempt.generation :=
    congrArg (·.generation) same
  have sameCancelled : entry.attempt.cancelled = attempt.cancelled :=
    congrArg (·.cancelled) same
  rw [← sameGeneration, ← sameCancelled]
  exact numbered.attempt found

theorem begin (numbered : controller.Numbered) (id : WorkspaceId)
    (environment : String) : (controller.begin id environment).Numbered where
  stamp := by simp
  generation := by simp [numbered.generation]
  active := by
    intro start
    simp only [active_begin, Option.some.injEq, length_starts_begin]
    omega
  attempt := by
    intro start entry found
    rw [length_starts_begin]
    rw [getElem?_begin] at found
    split at found
    · next isNew =>
        cases found
        simp [newStart, Attempt.new, isNew, numbered.generation]
    · next isOld =>
        split at found
        · next isActive =>
            obtain ⟨before, foundBefore, rfl⟩ := Option.map_eq_some_iff.mp found
            have latest := (numbered.active start).mp isActive
            have generation := (numbered.attempt foundBefore).1
            exact ⟨generation, by simp [Start.withdrawn]; omega⟩
        · next inactive =>
            obtain ⟨generation, cancelled⟩ := numbered.attempt found
            have inRange := lt_length_of_found found
            have notLatest : start + 1 ≠ controller.starts.length :=
              fun latest => inactive ((numbered.active start).mpr latest)
            exact ⟨generation, cancelled.trans (by omega)⟩

/-- The progress belongs to the latest start. -/
theorem owns_iff (numbered : controller.Numbered)
    (runs : controller.Runs start attempt) :
    controller.owns attempt = true ↔ start + 1 = controller.starts.length := by
  have generation := (numbered.runs runs).1
  simp only [owns, beq_iff_eq, numbered.stamp, numbered.generation, generation]
  exact eq_comm

/-- The latest start alone may act. -/
theorem isCurrent_iff (numbered : controller.Numbered)
    (runs : controller.Runs start attempt) :
    controller.isCurrent attempt = true ↔
      start + 1 = controller.starts.length := by
  obtain ⟨generation, cancelled⟩ := numbered.runs runs
  simp only [isCurrent, Attempt.isCurrent, Bool.and_eq_true, beq_iff_eq,
    Bool.not_eq_true', ← Bool.not_eq_true, cancelled, numbered.generation,
    generation]
  omega

/-- Either nothing was started, or the latest start is the active one. -/
theorem latest_cases (numbered : controller.Numbered) :
    controller.starts.length = 0 ∨
      ∃ start entry, start + 1 = controller.starts.length ∧
        controller.active = some start ∧
        controller.starts[start]? = some entry := by
  cases count : controller.starts.length with
  | zero => exact .inl rfl
  | succ start =>
      have inRange : start < controller.starts.length := by omega
      exact .inr ⟨start, _, rfl, (numbered.active start).mpr count.symm,
        List.getElem?_eq_getElem inRange⟩

theorem within (numbered : controller.Numbered)
    (within : Within start controller next) : next.Numbered where
  stamp := by rw [within.stamp, within.generation, numbered.stamp]
  generation := by rw [within.generation, within.length, numbered.generation]
  active := by
    intro other
    rw [within.active, within.length]
    exact numbered.active other
  attempt := by
    intro other entry found
    obtain ⟨before, foundBefore, same⟩ := within.source found
    rw [within.length]
    exact numbered.runs ⟨before, foundBefore, same.symm⟩

end Numbered

/-- What holds of every reachable controller, whatever else is known of it. -/
structure Sound (controller : Controller) : Prop where
  numbered : controller.Numbered
  tracker : controller.tracker.OfStartup

namespace Sound

theorem new (config : Config) : (Controller.new config).Sound :=
  ⟨.new config, Tracker.startup_ofStartup⟩

theorem begin (sound : controller.Sound) (id : WorkspaceId)
    (environment : String) : (controller.begin id environment).Sound where
  numbered := sound.numbered.begin id environment
  tracker := by
    rw [tracker_begin, Tracker.reset_eq_startup sound.tracker.labels]
    exact Tracker.startup_ofStartup

theorem act (sound : controller.Sound) (act : Act start controller next) :
    next.Sound :=
  ⟨sound.numbered.within act.within, act.ofStartup sound.tracker⟩

theorem acts (sound : controller.Sound) (acts : Acts start controller next) :
    next.Sound := by
  induction acts with
  | refl => exact sound
  | tail _ last induction => exact induction.act last

theorem change (sound : controller.Sound)
    (change : CallChange start controller next) : next.Sound where
  numbered := sound.numbered.within change.within
  tracker := by
    cases change with
    | waits | leaves | yields | fails | succeeds => exact sound.tracker

theorem follows (sound : controller.Sound)
    (follows : controller.Follows move next) : next.Sound := by
  cases follows with
  | begun id environment => exact sound.begin id environment
  | passed =>
      obtain ⟨⟨stamp, generation, active, attempt⟩, tracker⟩ := sound
      exact ⟨⟨stamp, generation, active, attempt⟩, tracker⟩
  | unheard => exact sound
  | heard _ shows => exact sound.acts (acts_of_shows shows)
  | carried _ _ carries =>
      obtain ⟨middle, acts, change⟩ := carries
      exact (sound.acts acts).change change

end Sound

theorem Reachable.sound (reachable : Reachable config controller) :
    controller.Sound := by
  induction reachable with
  | new => exact .new config
  | step move _ taken induction =>
      exact induction.follows (follows_of_step? induction.tracker taken)

theorem Reachable.follows (reachable : Reachable config controller)
    (taken : controller.step? move = some next) :
    controller.Follows move next :=
  follows_of_step? reachable.sound.tracker taken

/-- What beginnings, acts, changes of a call, and the passing of time keep holds
of every reachable controller. -/
theorem Reachable.invariant (holds : Controller → Prop)
    (fresh : holds (.new config))
    (begun : ∀ {controller} id environment, controller.Sound →
      holds controller → holds (controller.begin id environment))
    (passed : ∀ {controller} milliseconds, holds controller →
      holds { controller with clock := controller.clock + milliseconds })
    (acted : ∀ {start controller next}, controller.Sound →
      Act start controller next → holds controller → holds next)
    (changed : ∀ {start stage controller next}, controller.Sound →
      controller.call? start = some (.pending stage) →
      CallChange start controller next → holds controller → holds next)
    (reachable : Reachable config controller) : holds controller := by
  have acts {start : Nat} {controller next : Controller}
      (sound : controller.Sound) (acts : Acts start controller next)
      (before : holds controller) : holds next := by
    induction acts with
    | refl => exact before
    | tail earlier last induction =>
        exact acted (sound.acts earlier) last induction
  induction reachable with
  | new => exact fresh
  | step move before taken induction =>
      have sound := before.sound
      cases before.follows taken with
      | begun id environment => exact begun id environment sound induction
      | passed milliseconds => exact passed milliseconds induction
      | unheard => exact induction
      | heard _ shows => exact acts sound (acts_of_shows shows) induction
      | carried _ pending carries =>
          obtain ⟨middle, earlier, change⟩ := carries
          exact changed (sound.acts earlier)
            ((call?_eq_of_acts earlier _).trans pending) change
            (acts sound earlier induction)

end Controller

end WorkspaceStartup
