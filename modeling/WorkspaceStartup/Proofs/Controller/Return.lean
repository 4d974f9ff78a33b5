import Mathlib.Data.List.Induction
import WorkspaceStartup.Proofs.Controller.Generation

/-!
# When a call returns

A call is pending from the beginning of its start until it returns or its
caller drops it, and then it stays as it is.  The move with which it returns
is one of its own start (`Follows.returning`), and every call that has returned
did so with some move of the run (`Return.of_run`).
-/

namespace WorkspaceStartup

def Move.isBeginning : Move → Bool
  | .begin _ _ => true
  | _ => false

/-- How many starts begin with the moves. -/
def beginnings (moves : List Move) : Nat := moves.countP Move.isBeginning

namespace Controller

variable {config : Config} {controller next : Controller} {start : Nat}
  {moves : List Move} {move : Move} {result : Except StartFailure Unit}

theorem call?_begin {call : Call} (found : controller.call? start = some call)
    (id : WorkspaceId) (environment : String) :
    (controller.begin id environment).call? start = some call := by
  obtain ⟨entry, foundEntry, rfl⟩ := Option.map_eq_some_iff.mp found
  have isOld := lt_length_of_found foundEntry
  rw [call?, getElem?_begin, if_neg (by omega), foundEntry]
  split <;> rfl

/-- A call that is over stays as it is. -/
theorem Follows.call?_of_ended {call : Call}
    (follows : controller.Follows move next)
    (found : controller.call? start = some call)
    (ended : ∀ stage, call ≠ .pending stage) :
    next.call? start = some call := by
  cases follows with
  | begun id environment => exact call?_begin found id environment
  | passed => exact found
  | unheard => exact found
  | heard _ shows =>
      exact (call?_eq_of_acts (acts_of_shows shows) start).trans found
  | carried _ pending carries =>
      obtain ⟨middle, acts, change⟩ := carries
      refine (congrArg (·.map (·.call)) (change.within.others ?_)).trans
        ((call?_eq_of_acts acts start).trans found)
      rintro rfl
      rw [pending] at found
      cases found
      exact ended _ rfl

theorem Follows.call?_of_none (follows : controller.Follows move next)
    (missing : controller.call? start = none) :
    next.call? start = none ∨ next.call? start = some (.pending .starting) := by
  cases follows with
  | begun id environment =>
      have beyond : controller.starts[start]? = none :=
        Option.map_eq_none_iff.mp missing
      rw [call?, getElem?_begin]
      split
      · exact .inr rfl
      · rw [beyond]
        split <;> exact .inl rfl
  | passed => exact .inl missing
  | unheard => exact .inl missing
  | heard _ shows =>
      exact .inl ((call?_eq_of_acts (acts_of_shows shows) start).trans missing)
  | carried _ pending carries =>
      obtain ⟨middle, acts, change⟩ := carries
      left
      refine (congrArg (·.map (·.call)) (change.within.others ?_)).trans
        ((call?_eq_of_acts acts start).trans missing)
      rintro rfl
      rw [pending] at missing
      cases missing

/-- A call that has returned had returned before, or was pending. -/
theorem Follows.pending_or_returned (follows : controller.Follows move next)
    (returned : next.call? start = some (.returned result)) :
    (∃ stage, controller.call? start = some (.pending stage)) ∨
      controller.call? start = some (.returned result) := by
  cases call : controller.call? start with
  | none =>
      rcases follows.call?_of_none call with missing | pending
      · rw [missing] at returned
        cases returned
      · rw [pending] at returned
        cases returned
  | some found =>
      cases found with
      | pending stage => exact .inl ⟨stage, rfl⟩
      | returned other =>
          have stays := follows.call?_of_ended call nofun
          rw [stays] at returned
          exact .inr returned
      | dropped =>
          have stays := follows.call?_of_ended call nofun
          rw [stays] at returned
          cases returned

/-- A call returns in a turn of its own start. -/
theorem Follows.returning {stage : Stage}
    (follows : controller.Follows move next)
    (pending : controller.call? start = some (.pending stage))
    (returned : next.call? start = some (.returned result)) :
    ∃ middle, Acts start controller middle ∧
      CallChange start middle next := by
  have stays (same : next.call? start = controller.call? start) : False := by
    rw [same, pending] at returned
    cases returned
  cases follows with
  | begun id environment =>
      have same := call?_begin pending id environment
      exact (stays (same.trans pending.symm)).elim
  | passed | unheard => exact (stays rfl).elim
  | heard _ shows =>
      exact (stays (call?_eq_of_acts (acts_of_shows shows) start)).elim
  | @carried _ actor _ _ _ _ carries =>
      by_cases same : start = actor
      · exact same ▸ carries
      · obtain ⟨middle, acts, change⟩ := carries
        refine (stays ?_).elim
        exact (congrArg (·.map (·.call)) (change.within.others same)).trans
          (call?_eq_of_acts acts start)

/-! ## Runs -/

theorem Reachable.run (reachable : Reachable config controller)
    (ran : controller.run? moves = some next) : Reachable config next := by
  induction moves generalizing controller with
  | nil =>
      cases ran
      exact reachable
  | cons move moves induction =>
      obtain ⟨between, taken, rest⟩ := Option.bind_eq_some_iff.mp ran
      exact induction (.step move reachable taken) rest

/-- What every move keeps of a reachable controller, a whole run keeps. -/
theorem Reachable.run_induction (holds : Controller → Prop)
    (kept : ∀ {controller next move}, Reachable config controller →
      controller.Follows move next → holds controller → holds next)
    (reachable : Reachable config controller)
    (ran : controller.run? moves = some next) (before : holds controller) :
    holds next := by
  induction moves generalizing controller with
  | nil =>
      cases ran
      exact before
  | cons move moves induction =>
      obtain ⟨between, taken, rest⟩ := Option.bind_eq_some_iff.mp ran
      exact induction (.step move reachable taken) rest
        (kept reachable (reachable.follows taken) before)

theorem Reachable.length_starts_of_step?
    (reachable : Reachable config controller)
    (taken : controller.step? move = some next) :
    next.starts.length = controller.starts.length + beginnings [move] := by
  have same (continues : move.isBeginning = false) :
      next.starts.length = controller.starts.length := by
    cases reachable.follows taken with
    | begun => cases continues
    | passed | unheard => rfl
    | heard _ shows => exact (within_of_shows shows).length
    | carried _ _ carries =>
        obtain ⟨middle, acts, change⟩ := carries
        exact change.within.length.trans (within_of_acts acts).length
  cases move with
  | begin id environment =>
      cases taken
      exact length_starts_begin controller id environment
  | drop | publish | fire | started | watched | fetched | linked | woken
  | withdrawn | tick => exact same rfl

/-- The starts of a run are those that have begun in it. -/
theorem Reachable.length_starts_of_run (reachable : Reachable config controller)
    (ran : controller.run? moves = some next) :
    next.starts.length = controller.starts.length + beginnings moves := by
  induction moves generalizing controller with
  | nil =>
      cases ran
      rfl
  | cons move moves induction =>
      obtain ⟨between, taken, rest⟩ := Option.bind_eq_some_iff.mp ran
      have together : beginnings (move :: moves) =
          beginnings [move] + beginnings moves := by
        simp [beginnings, List.countP_cons, Nat.add_comm]
      rw [induction (.step move reachable taken) rest,
        reachable.length_starts_of_step? taken, together, Nat.add_assoc]

theorem length_starts_of_run
    (ran : (Controller.new config).run? moves = some controller) :
    controller.starts.length = beginnings moves := by
  rw [Reachable.new.length_starts_of_run ran]
  exact Nat.zero_add _

theorem run?_append (controller : Controller) (earlier later : List Move) :
    controller.run? (earlier ++ later) =
      (controller.run? earlier).bind fun between => between.run? later := by
  induction earlier generalizing controller with
  | nil => rfl
  | cons move moves induction =>
      simp only [List.cons_append, run?, Option.bind_assoc, induction]

/-- What holds at the beginning, and after one more move whenever it has held
before, holds after every run. -/
theorem history_induction (holds : List Move → Controller → Prop)
    (fresh : holds [] (Controller.new config))
    (moved : ∀ {moves controller move next},
      (Controller.new config).run? moves = some controller →
      controller.step? move = some next → holds moves controller →
      holds (moves ++ [move]) next)
    (ran : (Controller.new config).run? moves = some controller) :
    holds moves controller := by
  induction moves using List.reverseRecOn generalizing controller with
  | nil =>
      cases ran
      exact fresh
  | append_singleton earlier move induction =>
      rw [run?_append] at ran
      obtain ⟨before, ranBefore, rest⟩ := Option.bind_eq_some_iff.mp ran
      obtain ⟨after, taken, same⟩ := Option.bind_eq_some_iff.mp rest
      cases same
      exact moved ranBefore taken (induction ranBefore)

/-- The move of a run with which the call of a start returns. -/
structure Return (config : Config) (moves : List Move) (start : Nat)
    (result : Except StartFailure Unit) where
  earlier : List Move
  move : Move
  later : List Move
  before : Controller
  after : Controller
  split : moves = earlier ++ move :: later
  ran : (Controller.new config).run? earlier = some before
  taken : before.step? move = some after
  pending : ∃ stage, before.call? start = some (.pending stage)
  returned : after.call? start = some (.returned result)

/-- A call that has returned did so with some move of the run. -/
theorem Return.of_run
    (ran : (Controller.new config).run? moves = some controller)
    (returned : controller.call? start = some (.returned result)) :
    Nonempty (Return config moves start result) := by
  refine history_induction (fun moves controller =>
    controller.call? start = some (.returned result) →
      Nonempty (Return config moves start result)) ?_ ?_ ran returned
  · intro returned
    simp [call?, Controller.new] at returned
  · intro earlier before move after ran taken induction returned
    -- A call that had returned before the last move stays so.
    have follows := (Reachable.new.run ran).follows taken
    rcases follows.pending_or_returned returned with pending | stays
    · exact ⟨⟨earlier, move, [], before, after, rfl, ran, taken, pending,
        returned⟩⟩
    · obtain ⟨moment⟩ := induction stays
      exact ⟨{ moment with
        later := moment.later ++ [move]
        split := by simp [moment.split] }⟩

end Controller

end WorkspaceStartup
