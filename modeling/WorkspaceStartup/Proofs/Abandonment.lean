import WorkspaceStartup.Connection
import WorkspaceStartup.Proofs.Journal
import WorkspaceStartup.Proofs.Subscription

/-!
# Runs that lose their attempt

A connection run loses its attempt when that is withdrawn, or when another
generation becomes the active one.  From then on the run opens the link no more.
If it waits it returns as cancelled, and it leaves the channels of the attempt
to whoever has withdrawn it.  An opening under way does not notice the loss: a
run whose opening succeeds, or fails as the last of the budget, returns with
what the opening gives and gives up the channels.
-/

namespace WorkspaceStartup

namespace Connection

variable {Handler : Type} {connection next last : Connection Handler}
  {moves : List Move} {move : Move} {run : Reconnect}

/-- The run after moves that are all possible in turn. -/
def run? (connection : Connection Handler) :
    List Move → Option (Connection Handler)
  | [] => some connection
  | move :: moves => (connection.step? move).bind fun next => next.run? moves

/-- The run itself makes the move; the others come from outside. -/
def Move.isOwn : Move → Bool
  | .linked _ | .woken | .withdrawn => true
  | .invalidate | .activate _ | .tick _ => false

/-- The attempt and the bus that its channels are on. -/
def held (connection : Connection Handler) : Attempt × Bus Handler :=
  (connection.attempt, connection.bus)

/-- What a move does to the channels unless the run itself does something. -/
def Move.affect (held : Attempt × Bus Handler) : Move → Attempt × Bus Handler
  | .invalidate => held.1.invalidate held.2
  | .linked _ | .woken | .withdrawn | .activate _ | .tick _ => held

/-- The attempt may no longer act, and the moves do not bring it back: it has been
withdrawn, or none of them makes its generation the active one again. -/
structure Lost (connection : Connection Handler) (moves : List Move) :
    Prop where
  stale : connection.isCurrent = false
  lasting : connection.attempt.cancelled = true ∨
    ∀ generation, Move.activate generation ∈ moves →
      generation ≠ connection.attempt.generation

/-! ## Moves from outside -/

/-- A move from outside leaves the run where it is. -/
structure Passes (connection : Connection Handler) (move : Move)
    (next : Connection Handler) : Prop where
  stage : next.stage = connection.stage
  journal : next.journal = connection.journal
  held : next.held = move.affect connection.held

theorem passes_of_step? (outside : move.isOwn = false)
    (taken : connection.step? move = some next) :
    connection.Passes move next := by
  cases move with
  | linked | woken | withdrawn => cases outside
  | invalidate | activate | tick =>
      cases taken
      exact ⟨rfl, rfl, rfl⟩

theorem isCurrent_eq_false_iff :
    connection.isCurrent = false ↔
      connection.attempt.cancelled = true ∨
        connection.generation ≠ connection.attempt.generation := by
  simp [isCurrent, Attempt.isCurrent, Decidable.imp_iff_not_or]

/-! ## Moves of the run itself -/

theorem exists_turn_of_step? (own : move.isOwn = true)
    (taken : connection.step? move = some next) :
    ∃ turn, next = connection.takeTurn turn := by
  cases move with
  | linked =>
      simp only [step?] at taken
      split at taken
      · cases taken
        exact ⟨_, rfl⟩
      · cases taken
  | woken | withdrawn =>
      simp only [step?] at taken
      split at taken
      · split at taken
        · cases taken
          exact ⟨_, rfl⟩
        · cases taken
      · cases taken
  | invalidate | activate | tick => cases own

theorem isCurrent_takeTurn (connection : Connection Handler)
    (turn : Reconnect.Turn) :
    (connection.takeTurn turn).isCurrent = connection.isCurrent := by
  cases turn with
  | opening | waiting | connected | exhausted | cancelled => rfl

theorem attempt_takeTurn (connection : Connection Handler)
    (turn : Reconnect.Turn) :
    (connection.takeTurn turn).attempt.bare = connection.attempt.bare := by
  cases turn with
  | opening | waiting | connected | exhausted | cancelled => rfl

theorem generation_step? (taken : connection.step? move = some next) :
    next.attempt.generation = connection.attempt.generation := by
  cases own : move.isOwn with
  | true =>
      obtain ⟨turn, rfl⟩ := exists_turn_of_step? own taken
      exact congrArg (·.generation) (attempt_takeTurn connection turn)
  | false =>
      cases move with
      | linked | woken | withdrawn => cases own
      | invalidate | activate | tick =>
          cases taken
          rfl

/-- An attempt that has been withdrawn stays so. -/
theorem cancelled_step? (cancelled : connection.attempt.cancelled = true)
    (taken : connection.step? move = some next) :
    next.attempt.cancelled = true := by
  cases own : move.isOwn with
  | true =>
      obtain ⟨turn, rfl⟩ := exists_turn_of_step? own taken
      have same := congrArg (·.cancelled) (attempt_takeTurn connection turn)
      exact same.trans cancelled
  | false =>
      cases move with
      | linked | woken | withdrawn => cases own
      | invalidate =>
          cases taken
          rfl
      | activate | tick =>
          cases taken
          exact cancelled

/-- What is lost stays lost. -/
theorem Lost.step (lost : connection.Lost (move :: moves))
    (taken : connection.step? move = some next) : next.Lost moves := by
  obtain ⟨stale, lasting⟩ := lost
  have sameGeneration := generation_step? taken
  rcases lasting with cancelled | never
  · have still := cancelled_step? cancelled taken
    exact ⟨isCurrent_eq_false_iff.mpr (.inl still), .inl still⟩
  · constructor
    · cases own : move.isOwn with
      | true =>
          obtain ⟨turn, rfl⟩ := exists_turn_of_step? own taken
          exact (isCurrent_takeTurn connection turn).trans stale
      | false =>
          rw [isCurrent_eq_false_iff]
          cases move with
          | linked | woken | withdrawn => cases own
          | invalidate =>
              cases taken
              exact .inl rfl
          | activate generation =>
              cases taken
              exact .inr (never generation List.mem_cons_self)
          | tick =>
              cases taken
              exact isCurrent_eq_false_iff.mp stale
    · right
      intro generation member
      rw [sameGeneration]
      exact never generation (List.mem_cons_of_mem move member)

theorem Lost.of_run (lost : connection.Lost moves)
    (ran : connection.run? moves = some last) : last.isCurrent = false := by
  induction moves generalizing connection with
  | nil =>
      cases ran
      exact lost.stale
  | cons move moves induction =>
      obtain ⟨between, taken, rest⟩ := Option.bind_eq_some_iff.mp ran
      exact induction (lost.step taken) rest

/-! ## After the end, and while waiting -/

/-- What has ended stays so, and touches no channel any more. -/
theorem ended_of_run {result : Except ConnectFailure String}
    (ended : connection.stage = .ended result)
    (ran : connection.run? moves = some last) :
    last.stage = .ended result ∧ last.journal = connection.journal ∧
      last.held = moves.foldl Move.affect connection.held ∧
      moves.countP Move.isOwn = 0 := by
  induction moves generalizing connection with
  | nil =>
      cases ran
      exact ⟨ended, rfl, rfl, rfl⟩
  | cons move moves induction =>
      obtain ⟨between, taken, rest⟩ := Option.bind_eq_some_iff.mp ran
      have outside : move.isOwn = false := by
        cases move with
        | linked | woken | withdrawn =>
            simp only [step?, ended] at taken
            cases taken
        | invalidate | activate | tick => rfl
      have passes := passes_of_step? outside taken
      obtain ⟨stage, journal, held, own⟩ :=
        induction (passes.stage.trans ended) rest
      refine ⟨stage, journal.trans passes.journal, ?_, ?_⟩
      · rw [held, passes.held]
        rfl
      · rw [List.countP_cons, own, outside]
        rfl

/-- A run that waits without its attempt goes on waiting until it is cancelled. -/
theorem waiting_of_run {time : Nat}
    (waits : connection.stage = .waiting run time)
    (lost : connection.Lost moves)
    (ran : connection.run? moves = some last) :
    (last.stage = .waiting run time ∨
        last.stage = .ended (.error .cancelled)) ∧
      last.journal = connection.journal ∧
      last.held = moves.foldl Move.affect connection.held ∧
      moves.countP Move.isOwn ≤ 1 := by
  induction moves generalizing connection with
  | nil =>
      cases ran
      exact ⟨.inl waits, rfl, rfl, Nat.zero_le 1⟩
  | cons move moves induction =>
      obtain ⟨between, taken, rest⟩ := Option.bind_eq_some_iff.mp ran
      cases outside : move.isOwn with
      | false =>
          have passes := passes_of_step? outside taken
          obtain ⟨stage, journal, held, own⟩ :=
            induction (passes.stage.trans waits) (lost.step taken) rest
          refine ⟨stage, journal.trans passes.journal, ?_, ?_⟩
          · rw [held, passes.held]
            rfl
          · rw [List.countP_cons, outside]
            exact own
      | true =>
          -- Either way of waking up finds the attempt gone.
          have cancels : between = connection.takeTurn .cancelled ∧
              ∀ held : Attempt × Bus Handler, move.affect held = held := by
            cases move with
            | linked =>
                simp only [step?, waits] at taken
                cases taken
            | woken =>
                simp only [step?, waits, lost.stale] at taken
                split at taken
                · cases taken
                  exact ⟨rfl, fun _ => rfl⟩
                · cases taken
            | withdrawn =>
                simp only [step?, waits] at taken
                split at taken
                · cases taken
                  exact ⟨rfl, fun _ => rfl⟩
                · cases taken
            | invalidate | activate | tick => cases outside
          obtain ⟨rfl, unaffected⟩ := cancels
          obtain ⟨stage, journal, held, own⟩ := ended_of_run rfl rest
          refine ⟨.inr stage, journal, ?_, ?_⟩
          · rw [held, List.foldl_cons, unaffected]
            rfl
          · rw [List.countP_cons, own, outside]
            exact Nat.le_refl 1

/-! ## While the link is being opened -/

theorem step?_linked (opens : connection.stage = .opening run)
    (outcome : Except LinkFailure Unit) :
    connection.step? (.linked outcome) =
      some (connection.takeTurn (run.settle outcome)) := by
  simp only [step?, opens]

/-- The opening under way ends with the outcome, after moves from outside. -/
structure Settles (connection : Connection Handler) (run : Reconnect)
    (earlier : List Move) (outcome : Except LinkFailure Unit)
    (later : List Move) (between last : Connection Handler) : Prop where
  outside : ∀ move ∈ earlier, move.isOwn = false
  journal : between.journal = connection.journal
  held : between.held = earlier.foldl Move.affect connection.held
  lost : (between.takeTurn (run.settle outcome)).Lost later
  rest : (between.takeTurn (run.settle outcome)).run? later = some last

theorem opening_of_run (opens : connection.stage = .opening run)
    (lost : connection.Lost moves)
    (ran : connection.run? moves = some last) :
    (last.stage = .opening run ∧ last.journal = connection.journal ∧
        moves.countP Move.isOwn = 0) ∨
      ∃ earlier outcome later between,
        moves = earlier ++ .linked outcome :: later ∧
          connection.Settles run earlier outcome later between last := by
  induction moves generalizing connection with
  | nil =>
      cases ran
      exact .inl ⟨opens, rfl, rfl⟩
  | cons move moves induction =>
      obtain ⟨between, taken, rest⟩ := Option.bind_eq_some_iff.mp ran
      cases outside : move.isOwn with
      | false =>
          have passes := passes_of_step? outside taken
          rcases induction (passes.stage.trans opens) (lost.step taken)
            rest with ⟨stage, journal, own⟩ |
              ⟨earlier, outcome, later, settled, rfl, settles⟩
          · refine .inl ⟨stage, journal.trans passes.journal, ?_⟩
            rw [List.countP_cons, own, outside]
            rfl
          · refine .inr ⟨move :: earlier, outcome, later, settled, rfl, ?_⟩
            constructor
            · exact List.forall_mem_cons.mpr ⟨outside, settles.outside⟩
            · exact settles.journal.trans passes.journal
            · rw [settles.held, passes.held]
              rfl
            · exact settles.lost
            · exact settles.rest
      | true =>
          cases move with
          | linked outcome =>
              simp only [step?, opens] at taken
              cases taken
              have after := lost.step (step?_linked opens outcome)
              exact .inr ⟨[], outcome, moves, connection, rfl, nofun, rfl, rfl,
                after, rest⟩
          | woken | withdrawn =>
              simp only [step?, opens] at taken
              cases taken
          | invalidate | activate | tick => cases outside

/-! ## Counting the tries -/

/-- The run tries the URL, and the tries made and those that remain make up the
budget. -/
structure Budgeted (connection : Connection Handler) (url : String)
    (budget : Nat) : Prop where
  opening : ∀ run, connection.stage = .opening run → run.url = url ∧
    0 < run.remaining ∧ run.made + run.remaining = budget + 1
  waiting : ∀ run time, connection.stage = .waiting run time → run.url = url ∧
    0 < run.remaining ∧ run.made + run.remaining = budget

variable {url : String} {budget : Nat}

theorem budgeted_of_ended {result : Except ConnectFailure String}
    (ended : connection.stage = .ended result) :
    connection.Budgeted url budget := by
  constructor
  · intro run opens
    rw [ended] at opens
    cases opens
  · intro run time waits
    rw [ended] at waits
    cases waits

theorem budgeted_proceed (target : run.url = url) (remains : 0 < run.remaining)
    (counted : run.made + run.remaining = budget) (current : Bool) :
    (connection.takeTurn (run.proceed current)).Budgeted url budget := by
  cases current with
  | false => exact budgeted_of_ended rfl
  | true =>
      constructor
      · rintro opened ⟨⟩
        refine ⟨target, remains, ?_⟩
        rw [← counted, Nat.add_right_comm]
      · rintro waiting time ⟨⟩

theorem budgeted_settle (target : run.url = url) (remains : 0 < run.remaining)
    (counted : run.made + run.remaining = budget + 1)
    (outcome : Except LinkFailure Unit) :
    (connection.takeTurn (run.settle outcome)).Budgeted url budget := by
  cases outcome with
  | ok => exact budgeted_of_ended rfl
  | error failure =>
      simp only [Reconnect.settle]
      split
      · next left =>
          constructor
          · rintro opened ⟨⟩
          · rintro waiting time ⟨⟩
            refine ⟨target, left, ?_⟩
            rw [← Nat.add_sub_assoc remains, counted, Nat.add_sub_cancel]
      · exact budgeted_of_ended rfl

theorem budgeted_start (attempt : Attempt) (bus : Bus Handler)
    (generation retryDelay : Nat) (url : String) :
    (start attempt bus generation retryDelay url).Budgeted url
      (max attempt.budget 1) := by
  apply budgeted_proceed
  · rfl
  · exact Nat.le_max_right ..
  · exact Nat.zero_add _

theorem Budgeted.step (budgeted : connection.Budgeted url budget)
    (taken : connection.step? move = some next) :
    next.Budgeted url budget := by
  obtain ⟨opening, waiting⟩ := budgeted
  cases move with
  | linked outcome =>
      simp only [step?] at taken
      split at taken
      · next run opens =>
          cases taken
          obtain ⟨target, remains, counted⟩ := opening run opens
          exact budgeted_settle target remains counted outcome
      · cases taken
  | woken =>
      simp only [step?] at taken
      split at taken
      · next run time waits =>
          split at taken
          · cases taken
            obtain ⟨target, remains, counted⟩ := waiting run time waits
            exact budgeted_proceed target remains counted connection.isCurrent
          · cases taken
      · cases taken
  | withdrawn =>
      simp only [step?] at taken
      split at taken
      · split at taken
        · cases taken
          exact budgeted_of_ended rfl
        · cases taken
      · cases taken
  | invalidate | activate | tick =>
      cases taken
      exact ⟨opening, waiting⟩

theorem Budgeted.of_run (budgeted : connection.Budgeted url budget)
    (ran : connection.run? moves = some last) : last.Budgeted url budget := by
  induction moves generalizing connection with
  | nil =>
      cases ran
      exact budgeted
  | cons move moves induction =>
      obtain ⟨between, taken, rest⟩ := Option.bind_eq_some_iff.mp ran
      exact induction (budgeted.step taken) rest

/-! ## Returning -/

/-- The run has returned as cancelled, and has left the channels to what came
from outside. -/
def Abandons (connection : Connection Handler) (moves : List Move)
    (last : Connection Handler) : Prop :=
  last.stage = .ended (.error .cancelled) ∧
    last.held = moves.foldl Move.affect connection.held

/-- The run has returned with the result between the moves, and has given up the
channels then. -/
def Concludes (connection : Connection Handler) (earlier later : List Move)
    (last : Connection Handler) (result : Except ConnectFailure String) :
    Prop :=
  last.stage = .ended result ∧
    last.held = later.foldl Move.affect
      ((earlier.foldl Move.affect connection.held).1.teardown
        (earlier.foldl Move.affect connection.held).2)

theorem exists_end_of_waiting {time : Nat}
    (waits : connection.stage = .waiting run time)
    (stale : connection.isCurrent = false) :
    ∃ rest last, connection.run? rest = some last ∧
      last.stage = .ended (.error .cancelled) ∧
      ∀ outcome, .linked outcome ∉ rest := by
  let later : Connection Handler :=
    { connection with clock := connection.clock + (time - connection.clock) }
  have elapsed : time ≤ later.clock := by
    change time ≤ connection.clock + (time - connection.clock)
    omega
  have stillWaits : later.stage = .waiting run time := waits
  have stillStale : later.isCurrent = false := stale
  have wakes : later.step? .woken = some (later.takeTurn .cancelled) := by
    simp only [step?, stillWaits, elapsed, if_true, stillStale]
    rfl
  have ran : connection.run? [.tick (time - connection.clock), .woken] =
      (later.step? .woken).bind some :=
    rfl
  rw [wakes] at ran
  exact ⟨_, _, ran, rfl, by simp⟩

theorem stage_settle (connection : Connection Handler) (run : Reconnect)
    (outcome : Except LinkFailure Unit) :
    (∃ result, (connection.takeTurn (run.settle outcome)).stage =
        .ended result) ∨
      ∃ again time, (connection.takeTurn (run.settle outcome)).stage =
        .waiting again time := by
  cases outcome with
  | ok => exact .inl ⟨_, rfl⟩
  | error failure =>
      simp only [Reconnect.settle]
      split
      · exact .inr ⟨_, _, rfl⟩
      · exact .inl ⟨_, rfl⟩

/-- However an opening under way may end, a run that has lost its attempt can
come to its end. -/
theorem exists_end (stale : connection.isCurrent = false)
    (outcome : Except LinkFailure Unit) :
    ∃ rest ended result, connection.run? rest = some ended ∧
      ended.stage = .ended result ∧
      ∀ other, .linked other ∈ rest → other = outcome := by
  cases stage : connection.stage with
  | ended result => exact ⟨[], connection, result, rfl, stage, nofun⟩
  | waiting run time =>
      obtain ⟨rest, ended, ran, isEnded, unlinked⟩ :=
        exists_end_of_waiting stage stale
      exact ⟨rest, ended, _, ran, isEnded,
        fun other member => (unlinked other member).elim⟩
  | opening run =>
      let settled := connection.takeTurn (run.settle outcome)
      have first (rest : List Move) :
          connection.run? (.linked outcome :: rest) = settled.run? rest := by
        rw [run?, step?_linked stage]
        rfl
      have stillStale : settled.isCurrent = false :=
        (isCurrent_takeTurn connection _).trans stale
      rcases stage_settle connection run outcome with
        ⟨result, isEnded⟩ | ⟨again, time, waits⟩
      · exact ⟨[.linked outcome], settled, result, first [], isEnded, by simp⟩
      · obtain ⟨rest, ended, ran, isEnded, unlinked⟩ :=
          exists_end_of_waiting waits stillStale
        refine ⟨.linked outcome :: rest, ended, _, (first rest).trans ran,
          isEnded, ?_⟩
        intro other member
        rcases List.mem_cons.mp member with same | inRest
        · cases same
          rfl
        · exact (unlinked other inRest).elim

/-- What an opening that has ended without the attempt leads to. -/
theorem Settles.ends {earlier later : List Move} {between : Connection Handler}
    {outcome : Except LinkFailure Unit}
    (settles : connection.Settles run earlier outcome later between last) :
    Entry.openings last.journal = Entry.openings connection.journal ∧
    later.countP Move.isOwn ≤ 1 ∧
    match outcome with
    | .ok () => connection.Concludes earlier later last (.ok run.url)
    | .error failure =>
        if 0 < run.remaining - 1 then
          ∀ result, last.stage = .ended result →
            connection.Abandons (earlier ++ .linked outcome :: later) last
        else
          connection.Concludes earlier later last
            (.error (.exhausted run.made failure)) := by
  obtain ⟨-, journal, held, lost, rest⟩ := settles
  have teardown : (earlier.foldl Move.affect connection.held).1.teardown
      (earlier.foldl Move.affect connection.held).2 =
        between.attempt.teardown between.bus := by
    rw [← held]
    rfl
  have sameOpenings : Entry.openings between.journal =
      Entry.openings connection.journal := by
    rw [journal]
  cases outcome with
  | ok =>
      obtain ⟨stage, sameJournal, after, own⟩ := ended_of_run rfl rest
      refine ⟨?_, by omega, stage, ?_⟩
      · rw [sameJournal]
        exact sameOpenings
      · rw [after, teardown]
        rfl
  | error failure =>
      simp only [Reconnect.settle] at lost rest ⊢
      split at rest
      · next left =>
          rw [if_pos left] at lost
          obtain ⟨stage, sameJournal, after, own⟩ := waiting_of_run rfl lost rest
          refine ⟨?_, own, ?_⟩
          · rw [sameJournal]
            exact sameOpenings
          · rw [if_pos left]
            intro result ended
            rcases stage with waits | cancelled
            · rw [waits] at ended
              cases ended
            · refine ⟨cancelled, ?_⟩
              rw [after, List.foldl_append, ← held]
              rfl
      · next spent =>
          obtain ⟨stage, sameJournal, after, own⟩ := ended_of_run rfl rest
          refine ⟨?_, by omega, ?_⟩
          · rw [sameJournal]
            exact sameOpenings
          · rw [if_neg spent]
            refine ⟨stage, ?_⟩
            rw [after, teardown]
            rfl

/-- A run that loses its attempt begins no further opening, and it returns.  It
returns as cancelled and leaves the channels alone, if it has lost the attempt
before its first try, or while it waited, or during an opening that fails with
tries left.  An opening that succeeds, or fails as the last of the budget, is
returned as if nothing were lost, and the channels are given up. -/
theorem lost_runs_are_cancelled_unless_concluding {attempt : Attempt}
    {bus : Bus Handler} {generation retryDelay : Nat} {before after : List Move}
    (ran : (start attempt bus generation retryDelay url).run? before =
      some connection)
    (lost : connection.Lost after)
    (rest : connection.run? after = some last) :
    (attempt.isCurrent generation = false →
      (start attempt bus generation retryDelay url).stage =
          .ended (.error .cancelled) ∧
        (start attempt bus generation retryDelay url).journal = [] ∧
        (start attempt bus generation retryDelay url).held =
          (attempt, bus)) ∧
    Entry.openings last.journal = Entry.openings connection.journal ∧
    after.countP Move.isOwn ≤ 2 ∧
    (∀ outcome, ∃ more ended result, last.run? more = some ended ∧
      ended.stage = .ended result ∧
      ∀ other, .linked other ∈ more → other = outcome) ∧
    ∀ result, last.stage = .ended result →
      (∀ run time, connection.stage = .waiting run time →
        connection.Abandons after last) ∧
      ∀ run, connection.stage = .opening run →
        ∃ earlier outcome later, after = earlier ++ .linked outcome :: later ∧
          (∀ move ∈ earlier, move.isOwn = false) ∧
          match outcome with
          | .ok () => connection.Concludes earlier later last (.ok url)
          | .error failure =>
              if run.made = max attempt.budget 1 then
                connection.Concludes earlier later last
                  (.error (.exhausted (max attempt.budget 1) failure))
              else connection.Abandons after last := by
  have budgeted := (budgeted_start attempt bus generation retryDelay url).of_run
    ran
  have returns := exists_end (lost.of_run rest)
  refine ⟨?_, ?_⟩
  · intro stale
    have cancels : start attempt bus generation retryDelay url =
        (⟨attempt, bus, generation, retryDelay, 0,
          .ended (.error .cancelled), []⟩ : Connection Handler) := by
      simp only [start, isCurrent, stale]
      rfl
    rw [cancels]
    exact ⟨rfl, rfl, rfl⟩
  cases stage : connection.stage with
  | ended outcome =>
      obtain ⟨-, journal, -, own⟩ := ended_of_run stage rest
      rw [journal, own]
      exact ⟨rfl, Nat.zero_le 2, returns, fun _ _ => ⟨nofun, nofun⟩⟩
  | waiting run time =>
      obtain ⟨remains, journal, held, own⟩ := waiting_of_run stage lost rest
      rw [journal]
      refine ⟨rfl, Nat.le_succ_of_le own, returns, fun result ended => ?_⟩
      refine ⟨fun _ _ _ => ?_, nofun⟩
      rcases remains with waits | cancelled
      · rw [waits] at ended
        cases ended
      · exact ⟨cancelled, held⟩
  | opening run =>
      obtain ⟨target, positive, counted⟩ := budgeted.opening run stage
      rcases opening_of_run stage lost rest with ⟨still, journal, own⟩ |
        ⟨earlier, outcome, later, between, rfl, settles⟩
      · rw [journal, own]
        refine ⟨rfl, Nat.zero_le 2, returns, fun result ended => ?_⟩
        rw [still] at ended
        cases ended
      · obtain ⟨openings, own, ends⟩ := settles.ends
        refine ⟨openings, ?_, returns, fun result ended => ⟨nofun, ?_⟩⟩
        · have none : earlier.countP Move.isOwn = 0 := by
            rw [List.countP_eq_zero]
            exact fun move member => by simp [settles.outside move member]
          rw [List.countP_append, List.countP_cons, none]
          simp only [Move.isOwn, if_true]
          omega
        · rintro _ ⟨⟩
          refine ⟨earlier, outcome, later, rfl, settles.outside, ?_⟩
          cases outcome with
          | ok => exact target ▸ ends
          | error failure =>
              -- No try remains exactly when all of the budget are made.
              by_cases spent : run.made = max attempt.budget 1
              · have none : ¬ 0 < run.remaining - 1 := by omega
                simp only [none, if_false] at ends
                simpa only [spent, if_true] using ends
              · have left : 0 < run.remaining - 1 := by omega
                simp only [left, if_true] at ends
                simpa only [spent, if_false] using ends result ended

/-- A run whose only channel is served, with a budget of tries. -/
def served (budget : Nat) : Connection Unit :=
  start { Attempt.new ⟨"w"⟩ 1 budget with channels := ["c"] }
    (Bus.empty.subscribe "c" ()) 1 5 "ws://u/ws"

theorem lost_runs_are_cancelled_unless_concluding_of_waiting :
    ∃ connection last,
      (served 3).run?
          [.linked (.error (.refused "connection refused")), .activate 2] =
        some connection ∧
      connection.run? [.tick 5, .woken] = some last ∧
      connection.Abandons [.tick 5, .woken] last ∧
      last.bus.handler? "c" = some () := by
  have ran : (served 3).run?
      [.linked (.error (.refused "connection refused")), .activate 2] =
    some _ := rfl
  obtain ⟨-, -, -, -, returns⟩ :=
    lost_runs_are_cancelled_unless_concluding ran ⟨rfl, .inr (by simp)⟩
      (show run? _ [.tick 5, .woken] = some _ from rfl)
  exact ⟨_, _, ran, rfl, (returns _ rfl).1 _ _ rfl, rfl⟩

/-- The attempt is lost while the only try is under way.  Its outcome is returned
all the same, be it a failure or a connection, and the channel is given up. -/
theorem last_try_ends_as_if_nothing_were_lost :
    ∃ connection failed opened,
      (served 1).run? [.activate 2] = some connection ∧
      connection.isCurrent = false ∧
      (∀ result, connection.stage ≠ .ended result) ∧
      connection.bus.handler? "c" = some () ∧
      connection.run? [.linked (.error (.refused "connection refused"))] =
        some failed ∧
      failed.stage = .ended
        (.error (.exhausted 1 (.refused "connection refused"))) ∧
      failed.bus.handler? "c" = none ∧
      connection.run? [.linked (.ok ())] = some opened ∧
      opened.stage = .ended (.ok "ws://u/ws") ∧
      opened.bus.handler? "c" = none :=
  ⟨_, _, _, rfl, rfl, nofun, rfl, rfl, rfl, rfl, rfl, rfl, rfl⟩

end Connection

end WorkspaceStartup
