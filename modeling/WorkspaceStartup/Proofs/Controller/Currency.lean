import WorkspaceStartup.Proofs.Controller.Unanswered

/-!
# Attempts that may act

The generation is kept in three places: the controller counts it, the progress
is stamped with it, and every attempt bears its own.  All of them agree at any
time, so the attempt in the active slot is the one that may act.  Any other has
been cancelled and may never act again, since the generation only grows.
-/

namespace WorkspaceStartup

/-- The workspace that a move begins to start. -/
def Move.begun? : Move → Option WorkspaceId
  | .begin id _ => some id
  | .drop _ | .publish _ _ | .fire _ _ | .started _ _ | .watched _ _
  | .fetched _ _ | .linked _ _ | .woken _ | .withdrawn _ | .tick _ => none

namespace Controller

variable {config : Config} {controller next : Controller} {start : Nat}
  {entry : Start} {moves : List Move} {move : Move}

/-! ## Starts in the order of their beginning -/

/-- The workspaces of all starts, in their order. -/
def workspaces (controller : Controller) : List WorkspaceId :=
  controller.starts.map (·.attempt.workspaceId)

theorem workspaces_supersede :
    controller.supersede.workspaces = controller.workspaces := by
  apply List.ext_getElem?
  intro position
  rw [workspaces, workspaces, List.getElem?_map, List.getElem?_map,
    getElem?_supersede]
  split
  · rw [Option.map_map]
    rfl
  · rfl

theorem workspaces_begin (controller : Controller) (id : WorkspaceId)
    (environment : String) :
    (controller.begin id environment).workspaces =
      controller.workspaces ++ [id] := by
  have before : controller.renewed.supersede.workspaces = controller.workspaces :=
    workspaces_supersede
  rw [begin_eq, ← before]
  exact List.map_append

theorem Within.workspaces_eq (within : Within start controller next) :
    next.workspaces = controller.workspaces := by
  apply List.ext_getElem?
  intro position
  rw [workspaces, workspaces, List.getElem?_map, List.getElem?_map]
  cases found : next.starts[position]? with
  | none =>
      have beyond := List.getElem?_eq_none_iff.mp found
      rw [within.length] at beyond
      rw [List.getElem?_eq_none beyond]
  | some changed =>
      obtain ⟨before, foundBefore, same⟩ := within.source found
      have sameId : changed.attempt.workspaceId = before.attempt.workspaceId :=
        congrArg (·.workspaceId) same
      rw [foundBefore, Option.map_some, Option.map_some, sameId]

theorem Reachable.workspaces_of_step? (reachable : Reachable config controller)
    (taken : controller.step? move = some next) :
    next.workspaces = controller.workspaces ++ move.begun?.toList := by
  have same (continues : move.isBeginning = false) :
      next.workspaces = controller.workspaces := by
    have follows := reachable.follows taken
    cases actor : move.actor? controller with
    | none =>
        obtain ⟨clock, rfl⟩ := follows.eq_of_actor?_eq_none continues actor
        rfl
    | some start => exact (follows.within actor).workspaces_eq
  cases move with
  | begin id environment =>
      cases taken
      exact workspaces_begin controller id environment
  | drop | publish | fire | started | watched | fetched | linked | woken
  | withdrawn | tick => exact (same rfl).trans (List.append_nil _).symm

theorem workspaces_of_run
    (ran : (Controller.new config).run? moves = some controller) :
    controller.workspaces = moves.filterMap Move.begun? := by
  refine history_induction
    (fun moves controller => controller.workspaces = moves.filterMap Move.begun?)
    rfl ?_ ran
  intro moves controller move next ran taken induction
  rw [(Reachable.new.run ran).workspaces_of_step? taken, induction,
    List.filterMap_append]
  cases move <;> rfl

/-! ## Currency -/

namespace Numbered

theorem generations (numbered : controller.Numbered) :
    controller.starts.map (·.attempt.generation) =
      List.range' 1 controller.starts.length := by
  apply List.ext_getElem?
  intro position
  rw [List.getElem?_map]
  cases found : controller.starts[position]? with
  | none =>
      have beyond := List.getElem?_eq_none_iff.mp found
      rw [List.getElem?_eq_none (by simpa using beyond)]
      rfl
  | some entry =>
      have inRange := lt_length_of_found found
      rw [List.getElem?_range' inRange, Option.map_some,
        (numbered.attempt found).1]
      congr 1
      omega

theorem active_eq_none_iff (numbered : controller.Numbered) :
    controller.active = none ↔ controller.starts.length = 0 := by
  constructor
  · intro none
    rcases numbered.latest_cases with empty | ⟨start, _, _, active, _⟩
    · exact empty
    · rw [none] at active
      cases active
  · intro empty
    rw [Option.eq_none_iff_forall_ne_some]
    intro start active
    have latest := (numbered.active start).mp active
    omega

/-- The attempt in the active slot bears the latest generation. -/
theorem exists_of_active (numbered : controller.Numbered)
    (active : controller.active = some start) :
    ∃ entry, controller.starts[start]? = some entry ∧
      entry.attempt.generation = controller.generation := by
  have latest := (numbered.active start).mp active
  have inRange : start < controller.starts.length := by omega
  have found := List.getElem?_eq_getElem inRange
  refine ⟨_, found, ?_⟩
  rw [(numbered.attempt found).1, latest, numbered.generation]

theorem isCurrent_iff_active (numbered : controller.Numbered)
    (found : controller.starts[start]? = some entry) :
    controller.isCurrent entry.attempt = true ↔
      controller.active = some start :=
  (numbered.isCurrent_iff ⟨entry, found, rfl⟩).trans (numbered.active start).symm

/-- An attempt may not act exactly if it was cancelled. -/
theorem isCurrent_eq_false_iff (numbered : controller.Numbered)
    (found : controller.starts[start]? = some entry) :
    controller.isCurrent entry.attempt = false ↔
      entry.attempt.cancelled = true := by
  have inRange := lt_length_of_found found
  rw [← Bool.not_eq_true, numbered.isCurrent_iff ⟨entry, found, rfl⟩,
    (numbered.attempt found).2]
  omega

end Numbered

/-- An attempt that may not act any more never may again. -/
theorem Reachable.never_current_again (reachable : Reachable config controller)
    (found : controller.starts[start]? = some entry)
    (lost : controller.isCurrent entry.attempt = false)
    (ran : controller.run? moves = some next) :
    ∃ later, next.starts[start]? = some later ∧
      later.attempt.generation = entry.attempt.generation ∧
      next.isCurrent later.attempt = false := by
  have numbered := reachable.sound.numbered
  have stillNumbered := (reachable.run ran).sound.numbered
  have grown := reachable.length_starts_of_run ran
  have late : start + 1 < controller.starts.length :=
    (numbered.attempt found).2.mp ((numbered.isCurrent_eq_false_iff found).mp lost)
  have stillFound := List.getElem?_eq_getElem (l := next.starts) (i := start)
    (by omega)
  obtain ⟨generation, cancelled⟩ := stillNumbered.attempt stillFound
  refine ⟨_, stillFound, ?_, ?_⟩
  · rw [generation, (numbered.attempt found).1]
  · exact (stillNumbered.isCurrent_eq_false_iff stillFound).mpr
      (cancelled.mpr (by omega))

/-- After any number of beginnings, the generation that is counted, the one that
the progress is stamped with, and the one of the attempt in the active slot are
that number.  The attempts bear the generations from one on in the order of
their beginning.  The attempt in the active slot may act and no other may: any
other was cancelled, and never may act again. -/
theorem one_generation_is_current
    (ran : (Controller.new config).run? moves = some controller) :
    controller.generation = beginnings moves ∧
    controller.stamp = beginnings moves ∧
    (controller.active = none ↔ beginnings moves = 0) ∧
    (∀ start, controller.active = some start →
      ∃ entry, controller.starts[start]? = some entry ∧
        entry.attempt.generation = beginnings moves) ∧
    controller.starts.map (·.attempt.generation) =
      List.range' 1 (beginnings moves) ∧
    controller.workspaces = moves.filterMap Move.begun? ∧
    ∀ start entry, controller.starts[start]? = some entry →
      (controller.isCurrent entry.attempt = true ↔
        controller.active = some start) ∧
      (controller.isCurrent entry.attempt = false ↔
        entry.attempt.cancelled = true) ∧
      (controller.isCurrent entry.attempt = false →
        ∀ later next, controller.run? later = some next →
          ∃ after, next.starts[start]? = some after ∧
            after.attempt.generation = entry.attempt.generation ∧
            next.isCurrent after.attempt = false) := by
  have reachable : Reachable config controller := Reachable.new.run ran
  have numbered := reachable.sound.numbered
  have counted : controller.generation = beginnings moves :=
    numbered.generation.trans (length_starts_of_run ran)
  rw [← counted]
  refine ⟨rfl, numbered.stamp, ?_, fun start => numbered.exists_of_active, ?_,
    workspaces_of_run ran, ?_⟩
  · rw [numbered.generation]
    exact numbered.active_eq_none_iff
  · rw [numbered.generation]
    exact numbered.generations
  · intro start entry found
    exact ⟨numbered.isCurrent_iff_active found,
      numbered.isCurrent_eq_false_iff found,
      fun lost later next => reachable.never_current_again found lost⟩

/-- The first of two starts of a workspace has lost its currency, and a third
start does not give it back. -/
theorem one_generation_is_current_after_restart :
    ∃ controller next,
      (Controller.new ⟨1, 0, .agentServer⟩).run? (restart ⟨"w"⟩) =
        some controller ∧
      controller.generation = 2 ∧ controller.workspaces = [⟨"w"⟩, ⟨"w"⟩] ∧
      controller.run? [.begin ⟨"v"⟩ "", .tick 1] = some next ∧
      ∃ first, next.starts[0]? = some first ∧
        first.attempt.generation = 1 ∧
        next.isCurrent first.attempt = false := by
  have ran : (Controller.new ⟨1, 0, .agentServer⟩).run? (restart ⟨"w"⟩) =
      some _ := rfl
  obtain ⟨generation, -, -, -, -, workspaces, currency⟩ :=
    one_generation_is_current ran
  obtain ⟨-, -, never⟩ := currency 0 _ rfl
  refine ⟨_, _, ran, generation, workspaces, rfl, ?_⟩
  exact never rfl [.begin ⟨"v"⟩ "", .tick 1] _ rfl

end Controller

end WorkspaceStartup
