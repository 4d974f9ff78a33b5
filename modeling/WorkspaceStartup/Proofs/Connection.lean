import WorkspaceStartup.Connection
import WorkspaceStartup.Proofs.Journal
import WorkspaceStartup.Proofs.Subscription

/-!
# The tries of a connection run

A connection run whose attempt stays current tries the link again and again, and
waits in between, until a try succeeds or the budget is spent.  A trial fixes
what the run starts from and how each try turns out; a play of it is what can
happen then, when whatever is due happens in time.  Every play stands at one
point of the trial (`Standing`), so it tells what the trial foresees.
-/

namespace WorkspaceStartup

/-- How a try to open the link turns out. -/
structure Try where
  outcome : Except LinkFailure Unit
  /-- How many milliseconds the opening takes. -/
  duration : Nat

namespace Connection

variable {Handler : Type} {connection next last : Connection Handler}
  {tries : Nat → Try} {moves : List Move} {move : Move}

/-- The number of the try under way, from zero. -/
def underway (connection : Connection Handler) : Nat :=
  (Entry.openings connection.journal).length - 1

/-- When the latest try has begun. -/
def openedAt (connection : Connection Handler) : Nat :=
  ((Entry.openings connection.journal).head?.map (·.2)).getD 0

/-- When the try or the wait under way ends. -/
def due? (connection : Connection Handler) (tries : Nat → Try) : Option Nat :=
  match connection.stage with
  | .opening _ =>
      some (connection.openedAt + (tries connection.underway).duration)
  | .waiting _ wakeTime => some wakeTime
  | .ended _ => none

/-- The move is one of a run whose tries turn out as given: time does not pass
what is due, and the attempt stays current. -/
inductive Suits (tries : Nat → Try) (connection : Connection Handler) :
    Move → Prop
  | linked (due : connection.due? tries = some connection.clock) :
      Suits tries connection (.linked (tries connection.underway).outcome)
  | woken : Suits tries connection .woken
  | withdrawn : Suits tries connection .withdrawn
  | tick {milliseconds time : Nat} (passes : 0 < milliseconds)
      (due : connection.due? tries = some time)
      (inTime : connection.clock + milliseconds ≤ time) :
      Suits tries connection (.tick milliseconds)

/-- The moves lead from one run to another, and each suits the tries. -/
inductive Plays (tries : Nat → Try) :
    Connection Handler → List Move → Connection Handler → Prop
  | done {connection : Connection Handler} :
      Plays tries connection [] connection
  | move {connection next last : Connection Handler} {move : Move}
      {moves : List Move} (suits : Suits tries connection move)
      (taken : connection.step? move = some next)
      (rest : Plays tries next moves last) :
      Plays tries connection (move :: moves) last

end Connection

/-- What a connection run starts from, and how its tries turn out. -/
structure Trial (Handler : Type) where
  attempt : Attempt
  bus : Bus Handler
  generation : Nat
  retryDelay : Nat
  url : String
  tries : Nat → Try

namespace Trial

variable {Handler : Type} {trial : Trial Handler}
  {connection next last : Connection Handler} {made position clock : Nat}
  {moves : List Connection.Move} {move : Connection.Move}

def start (trial : Trial Handler) : Connection Handler :=
  .start trial.attempt trial.bus trial.generation trial.retryDelay trial.url

/-- How many tries there may be: at least one. -/
def budget (trial : Trial Handler) : Nat := max trial.attempt.budget 1

/-- When a try begins: a wait after the end of the one before. -/
def begins (trial : Trial Handler) : Nat → Nat
  | 0 => 0
  | position + 1 =>
      Reconnect.wakeTime
        (trial.begins position + (trial.tries position).duration)
        trial.retryDelay

def ends (trial : Trial Handler) (position : Nat) : Nat :=
  trial.begins position + (trial.tries position).duration

/-- All tries before a position fail. -/
def FailsUntil (trial : Trial Handler) (position : Nat) : Prop :=
  ∀ earlier < position, (trial.tries earlier).outcome ≠ .ok ()

/-- What a try enters: its announcement, and the opening of the link. -/
def record (trial : Trial Handler) (position : Nat) : List Entry :=
  [⟨0, trial.begins position, .announced (.connectAttempted
      trial.attempt.workspaceId (position + 1) (trial.budget - position))⟩,
    ⟨0, trial.begins position, .opened trial.url⟩]

/-- What the first tries enter, the earliest first. -/
def log (trial : Trial Handler) (count : Nat) : List Entry :=
  (List.range count).flatMap trial.record

/-- The run after some tries, at a time and in a stage. -/
def after (trial : Trial Handler) (count clock : Nat) (stage : ConnectStage) :
    Connection Handler where
  attempt := trial.attempt
  bus := trial.bus
  generation := trial.generation
  retryDelay := trial.retryDelay
  clock := clock
  stage := stage
  journal := (trial.log count).reverse

/-- A point of the trial that the run can stand at, and how many tries and waits
have ended before. -/
inductive Standing (trial : Trial Handler) : Nat → Connection Handler → Prop
  | opening {position clock : Nat} (within : position < trial.budget)
      (failed : trial.FailsUntil position)
      (begun : trial.begins position ≤ clock)
      (lasts : clock ≤ trial.ends position) :
      Standing trial (2 * position)
        (trial.after (position + 1) clock
          (.opening ⟨trial.url, position + 1, trial.budget - position⟩))
  | waiting {position clock : Nat} (within : position + 1 < trial.budget)
      (failed : trial.FailsUntil (position + 1))
      (begun : trial.ends position ≤ clock)
      (asleep : clock ≤ trial.begins (position + 1)) :
      Standing trial (2 * position + 1)
        (trial.after (position + 1) clock
          (.waiting
            ⟨trial.url, position + 1, trial.budget - (position + 1)⟩
            (trial.begins (position + 1))))
  | connected {position : Nat} (within : position < trial.budget)
      (failed : trial.FailsUntil position)
      (succeeded : (trial.tries position).outcome = .ok ()) :
      Standing trial (2 * position + 1)
        (((trial.after (position + 1) (trial.ends position)
          (.ended (.ok trial.url))).enter (.connected trial.url)).teardown)
  | exhausted {position : Nat} {failure : LinkFailure}
      (spent : position + 1 = trial.budget)
      (failed : trial.FailsUntil (position + 1))
      (failing : (trial.tries position).outcome = .error failure) :
      Standing trial (2 * position + 1)
        (trial.after (position + 1) (trial.ends position)
          (.ended (.error (.exhausted (position + 1) failure)))).teardown

/-! ## Times -/

theorem begins_le_ends (trial : Trial Handler) (position : Nat) :
    trial.begins position ≤ trial.ends position :=
  Nat.le_add_right ..

theorem ends_le_begins_succ (trial : Trial Handler) (position : Nat) :
    trial.ends position ≤ trial.begins (position + 1) :=
  Nat.le_add_right ..

theorem ends_le_ends (trial : Trial Handler) {position later : Nat}
    (order : position ≤ later) : trial.ends position ≤ trial.ends later := by
  induction order with
  | refl => exact Nat.le_refl _
  | @step between _ induction =>
      have waits := trial.ends_le_begins_succ between
      have opens := trial.begins_le_ends (between + 1)
      exact Nat.le_trans induction (Nat.le_trans waits opens)

/-! ## The log -/

theorem log_succ (trial : Trial Handler) (count : Nat) :
    trial.log (count + 1) = trial.log count ++ trial.record count := by
  simp [log, List.range_succ]

theorem openings_log_succ (trial : Trial Handler) (count : Nat) :
    Entry.openings (trial.log (count + 1)).reverse =
      (trial.url, trial.begins count) ::
        Entry.openings (trial.log count).reverse := by
  rw [log_succ, List.reverse_append]
  rfl

theorem length_openings_log (trial : Trial Handler) (count : Nat) :
    (Entry.openings (trial.log count).reverse).length = count := by
  induction count with
  | zero => rfl
  | succ count induction =>
      rw [openings_log_succ, List.length_cons, induction]

theorem underway_after (trial : Trial Handler) (position clock : Nat)
    (stage : ConnectStage) :
    (trial.after (position + 1) clock stage).underway = position := by
  rw [Connection.underway, after, length_openings_log, Nat.add_sub_cancel]

theorem openedAt_after (trial : Trial Handler) (position clock : Nat)
    (stage : ConnectStage) :
    (trial.after (position + 1) clock stage).openedAt =
      trial.begins position := by
  rw [Connection.openedAt, after, openings_log_succ]
  rfl

theorem due?_opening (trial : Trial Handler) (position clock : Nat)
    (run : Reconnect) :
    (trial.after (position + 1) clock (.opening run)).due? trial.tries =
      some (trial.ends position) := by
  have opened := openedAt_after trial position clock (.opening run)
  have number := underway_after trial position clock (.opening run)
  change some (_ + (trial.tries _).duration) = _
  rw [opened, number]
  rfl

/-- A try enters what the trial foresees. -/
theorem takeTurn_opening (trial : Trial Handler) (count : Nat)
    (stage : ConnectStage) :
    (trial.after count (trial.begins count) stage).takeTurn
        (.opening ⟨trial.url, count + 1, trial.budget - count⟩) =
      trial.after (count + 1) (trial.begins count)
        (.opening ⟨trial.url, count + 1, trial.budget - count⟩) := by
  have journal : (trial.log (count + 1)).reverse =
      ⟨0, trial.begins count, .opened trial.url⟩ ::
      ⟨0, trial.begins count, .announced (.connectAttempted
        trial.attempt.workspaceId (count + 1) (trial.budget - count))⟩ ::
      (trial.log count).reverse := by
    rw [log_succ, List.reverse_append]
    rfl
  rw [after, after, journal]
  rfl

/-! ## Moves -/

/-- The attempt of the trial may act. -/
def Current (trial : Trial Handler) : Prop :=
  trial.attempt.isCurrent trial.generation = true

theorem standing_start (current : trial.Current) :
    trial.Standing 0 trial.start := by
  have begun : trial.start =
      (trial.after 0 (trial.begins 0)
        (.waiting (Reconnect.new trial.url trial.attempt.budget) 0)).takeTurn
          ((Reconnect.new trial.url trial.attempt.budget).proceed
            (trial.attempt.isCurrent trial.generation)) :=
    rfl
  have positive : 0 < trial.budget := Nat.le_max_right ..
  rw [begun, current]
  have opens := takeTurn_opening trial 0
    (.waiting (Reconnect.new trial.url trial.attempt.budget) 0)
  exact opens ▸ .opening positive nofun (Nat.le_refl _) (trial.begins_le_ends 0)

/-- The end of an opening brings the run to the next point. -/
theorem standing_linked (within : position < trial.budget)
    (failed : trial.FailsUntil position) :
    trial.Standing (2 * position + 1)
      ((trial.after (position + 1) (trial.ends position)
        (.opening ⟨trial.url, position + 1, trial.budget - position⟩)).takeTurn
          (Reconnect.settle
            ⟨trial.url, position + 1, trial.budget - position⟩
            (trial.tries position).outcome)) := by
  cases outcome : (trial.tries position).outcome with
  | ok => exact .connected within failed outcome
  | error failure =>
      have stillFailed : trial.FailsUntil (position + 1) := by
        intro earlier order
        rcases Nat.lt_succ_iff_lt_or_eq.mp order with before | rfl
        · exact failed earlier before
        · rw [outcome]
          nofun
      simp only [Reconnect.settle]
      split
      · next left =>
          have more : position + 1 < trial.budget := by omega
          exact .waiting more stillFailed (Nat.le_refl _)
            (trial.ends_le_begins_succ position)
      · next spent =>
          have last : position + 1 = trial.budget := by omega
          exact .exhausted last stillFailed outcome

theorem clock_takeTurn (connection : Connection Handler)
    (turn : Reconnect.Turn) :
    (connection.takeTurn turn).clock = connection.clock := by
  cases turn with
  | opening | waiting | connected | exhausted | cancelled => rfl

theorem step?_woken (current : trial.Current) (count clock time : Nat)
    (run : Reconnect) :
    (trial.after count clock (.waiting run time)).step? .woken =
      if time ≤ clock then
        some ((trial.after count clock (.waiting run time)).takeTurn
          (.opening { run with made := run.made + 1 }))
      else none := by
  have proceeds : run.proceed (trial.attempt.isCurrent trial.generation) =
      .opening { run with made := run.made + 1 } := by
    rw [current]
    rfl
  rw [← proceeds]
  rfl

theorem step?_withdrawn (current : trial.Current) (count clock time : Nat)
    (run : Reconnect) :
    (trial.after count clock (.waiting run time)).step? .withdrawn = none := by
  have active : trial.attempt.cancelled = false := by
    have both := Bool.and_eq_true_iff.mp current
    simpa using both.1
  simp [Connection.step?, after, active]

/-- A move that suits the tries brings the run on: something ends, or time
passes. -/
theorem Standing.step (standing : trial.Standing made connection)
    (current : trial.Current) (suits : connection.Suits trial.tries move)
    (taken : connection.step? move = some next) :
    ∃ later, trial.Standing later next ∧
      made + connection.clock < later + next.clock := by
  cases standing with
  | @opening position clock within failed begun lasts =>
      cases suits with
      | linked due =>
          rw [due?_opening] at due
          have now : trial.ends position = clock := Option.some.inj due
          subst now
          rw [underway_after] at taken
          cases taken
          refine ⟨_, standing_linked within failed, ?_⟩
          rw [clock_takeTurn]
          exact Nat.add_lt_add_right (Nat.lt_succ_self _) _
      | woken | withdrawn => cases taken
      | @tick milliseconds time passes due inTime =>
          rw [due?_opening] at due
          cases due
          cases taken
          refine ⟨_, .opening within failed ?_ inTime, ?_⟩
          · exact Nat.le_trans begun (Nat.le_add_right ..)
          · exact Nat.add_lt_add_left (Nat.lt_add_of_pos_right passes) _
  | @waiting position clock within failed begun asleep =>
      cases suits with
      | linked => cases taken
      | woken =>
          rw [step?_woken current, Option.ite_none_right_eq_some] at taken
          obtain ⟨elapsed, opens⟩ := taken
          have now : clock = trial.begins (position + 1) :=
            Nat.le_antisymm asleep elapsed
          subst now
          rw [takeTurn_opening] at opens
          cases opens
          exact ⟨_, .opening within failed (Nat.le_refl _)
            (trial.begins_le_ends _), Nat.add_lt_add_right (by omega) _⟩
      | withdrawn =>
          rw [step?_withdrawn current] at taken
          cases taken
      | @tick milliseconds time passes due inTime =>
          cases due
          cases taken
          refine ⟨_, .waiting within failed ?_ inTime, ?_⟩
          · exact Nat.le_trans begun (Nat.le_add_right ..)
          · exact Nat.add_lt_add_left (Nat.lt_add_of_pos_right passes) _
  | connected | exhausted =>
      cases suits with
      | linked | woken | withdrawn => cases taken
      | tick _ due => cases due

/-! ## Plays -/

/-- There is no more to a trial than its budget and the time of its last try. -/
theorem Standing.bounded (standing : trial.Standing made connection) :
    made < 2 * trial.budget ∧
      connection.clock ≤ trial.ends (trial.budget - 1) := by
  cases standing with
  | opening within failed begun lasts =>
      have latest := trial.ends_le_ends (Nat.le_sub_one_of_lt within)
      exact ⟨by omega, Nat.le_trans lasts latest⟩
  | @waiting position clock within failed begun asleep =>
      have latest := trial.ends_le_ends (Nat.le_sub_one_of_lt within)
      have opens := trial.begins_le_ends (position + 1)
      exact ⟨by omega, Nat.le_trans asleep (Nat.le_trans opens latest)⟩
  | connected within =>
      exact ⟨by omega, trial.ends_le_ends (Nat.le_sub_one_of_lt within)⟩
  | exhausted spent =>
      exact ⟨by omega, trial.ends_le_ends (by omega)⟩

theorem Standing.of_plays (standing : trial.Standing made connection)
    (current : trial.Current)
    (plays : connection.Plays trial.tries moves last) :
    ∃ later, trial.Standing later last ∧
      made + connection.clock + moves.length ≤ later + last.clock := by
  induction plays generalizing made with
  | done => exact ⟨made, standing, Nat.le_refl _⟩
  | move suits taken rest induction =>
      obtain ⟨between, stands, further⟩ := standing.step current suits taken
      obtain ⟨later, standsLast, furthest⟩ := induction stands
      refine ⟨later, standsLast, ?_⟩
      rw [List.length_cons]
      omega

/-- As long as the run has not ended, something can happen. -/
theorem Standing.progress (standing : trial.Standing made connection)
    (current : trial.Current)
    (goesOn : ∀ result, connection.stage ≠ .ended result) :
    ∃ move next, connection.Suits trial.tries move ∧
      connection.step? move = some next := by
  cases standing with
  | @opening position clock within failed begun lasts =>
      have due := due?_opening trial position clock
        ⟨trial.url, position + 1, trial.budget - position⟩
      by_cases now : clock = trial.ends position
      · exact ⟨_, _, .linked (due.trans (congrArg some now.symm)), rfl⟩
      · have later : 0 < trial.ends position - clock := by omega
        refine ⟨_, _, .tick later due ?_, rfl⟩
        exact Nat.le_of_eq (Nat.add_sub_cancel' lasts)
  | @waiting position clock within failed begun asleep =>
      by_cases now : clock = trial.begins (position + 1)
      · exact ⟨_, _, .woken, (step?_woken current _ _ _ _).trans
          (if_pos (Nat.le_of_eq now.symm))⟩
      · have later : 0 < trial.begins (position + 1) - clock := by omega
        refine ⟨_, _, .tick later rfl ?_, rfl⟩
        exact Nat.le_of_eq (Nat.add_sub_cancel' asleep)
  | connected | exhausted => exact (goesOn _ rfl).elim

/-- Every play comes to its end. -/
theorem Standing.exists_end (standing : trial.Standing made connection)
    (current : trial.Current) :
    ∃ moves last result, connection.Plays trial.tries moves last ∧
      last.stage = .ended result := by
  -- Each move brings the run closer to the bounds of the trial.
  induction left : 2 * trial.budget + trial.ends (trial.budget - 1) -
      (made + connection.clock) using Nat.strongRecOn
    generalizing made connection with
  | ind left induction =>
      by_cases finished : ∃ result, connection.stage = .ended result
      · obtain ⟨result, ended⟩ := finished
        exact ⟨[], connection, result, .done, ended⟩
      · have goesOn : ∀ result, connection.stage ≠ .ended result :=
          fun result ended => finished ⟨result, ended⟩
        obtain ⟨move, next, suits, taken⟩ := standing.progress current goesOn
        obtain ⟨later, stands, further⟩ := standing.step current suits taken
        obtain ⟨within, inTime⟩ := stands.bounded
        obtain ⟨moves, last, result, plays, ended⟩ :=
          induction _ (by omega) stands rfl
        exact ⟨move :: moves, last, result, .move suits taken plays, ended⟩

/-- The run has ended with all its tries told, and its attempt holds nothing. -/
structure Concluded (trial : Trial Handler) (connection : Connection Handler)
    (count : Nat) (rest : List Entry) : Prop where
  journal : connection.journal.reverse = trial.log count ++ rest
  clock : connection.clock = trial.ends (count - 1)
  channels : connection.attempt.channels = []
  bus : ∀ channel ∈ trial.attempt.channels,
    connection.bus.handler? channel = none

theorem Standing.concluded {result : Except ConnectFailure String}
    (standing : trial.Standing made connection)
    (ended : connection.stage = .ended result) :
    (∃ position < trial.budget, trial.FailsUntil position ∧
      (trial.tries position).outcome = .ok () ∧ result = .ok trial.url ∧
      trial.Concluded connection (position + 1)
        [⟨0, trial.ends position, .connected trial.url⟩]) ∨
    ∃ failure, trial.FailsUntil trial.budget ∧
      (trial.tries (trial.budget - 1)).outcome = .error failure ∧
      result = .error (.exhausted trial.budget failure) ∧
      trial.Concluded connection trial.budget [] := by
  have quiet : ∀ channel ∈ trial.attempt.channels,
      (trial.attempt.channels.foldl Bus.unsubscribe trial.bus).handler?
        channel = none := by
    intro channel member
    rw [Bus.handler?_foldl_unsubscribe, if_pos member]
  cases standing with
  | opening | waiting => cases ended
  | @connected position within failed succeeded =>
      cases ended
      refine .inl ⟨position, within, failed, succeeded, rfl, ?_, rfl, rfl,
        quiet⟩
      change (_ :: (trial.log (position + 1)).reverse).reverse = _
      rw [List.reverse_cons, List.reverse_reverse]
      rfl
  | @exhausted position failure spent failed failing =>
      cases ended
      have last : trial.budget - 1 = position := by omega
      rw [last, ← spent]
      refine .inr ⟨failure, failed, failing, rfl, ?_, rfl, rfl, quiet⟩
      rw [List.append_nil]
      exact List.reverse_reverse _

theorem Standing.counters {run : Reconnect}
    (standing : trial.Standing made connection)
    (goesOn : connection.stage = .opening run ∨
      ∃ time, connection.stage = .waiting run time) :
    0 < run.made ∧ run.made ≤ trial.budget ∧
      0 < run.remaining ∧ run.remaining ≤ trial.budget := by
  cases standing with
  | opening within =>
      rcases goesOn with ⟨⟨⟩⟩ | ⟨time, ⟨⟩⟩
      exact ⟨Nat.succ_pos _, within, Nat.sub_pos_of_lt within, Nat.sub_le ..⟩
  | waiting within =>
      rcases goesOn with ⟨⟨⟩⟩ | ⟨time, ⟨⟩⟩
      exact ⟨Nat.succ_pos _, Nat.le_of_lt within, Nat.sub_pos_of_lt within,
        Nat.sub_le ..⟩
  | connected | exhausted => rcases goesOn with ⟨⟨⟩⟩ | ⟨time, ⟨⟩⟩

theorem budget_le (fits : trial.attempt.budget ≤ Json.halfWordLimit) :
    trial.budget ≤ Json.halfWordLimit :=
  Nat.max_le.mpr ⟨fits, by decide⟩

/-- The run of an attempt that stays current comes to its end, whatever its
tries take.  It returns with the first try that succeeds, or with the failure of
the last when the budget is spent; it has begun each try once, the first at once
and the others a wait after the one before has failed; and the channels of the
attempt are given up. -/
theorem retries_spend_the_budget (current : trial.Current)
    (plays : trial.start.Plays trial.tries moves connection) :
    moves.length < 2 * trial.budget + trial.ends (trial.budget - 1) ∧
    (∃ rest last result, connection.Plays trial.tries rest last ∧
      last.stage = .ended result) ∧
    (∀ run, (connection.stage = .opening run ∨
        ∃ time, connection.stage = .waiting run time) →
      0 < run.made ∧ run.made ≤ trial.budget ∧
        0 < run.remaining ∧ run.remaining ≤ trial.budget) ∧
    (trial.attempt.budget ≤ Json.halfWordLimit →
      trial.budget ≤ Json.halfWordLimit) ∧
    ∀ result, connection.stage = .ended result →
      (∀ position < trial.budget, trial.FailsUntil position →
        (trial.tries position).outcome = .ok () →
        result = .ok trial.url ∧
          trial.Concluded connection (position + 1)
            [⟨0, trial.ends position, .connected trial.url⟩]) ∧
      (trial.FailsUntil trial.budget →
        ∃ failure,
          (trial.tries (trial.budget - 1)).outcome = .error failure ∧
          result = .error (.exhausted trial.budget failure) ∧
          trial.Concluded connection trial.budget []) := by
  obtain ⟨made, standing, further⟩ :=
    (standing_start current).of_plays current plays
  obtain ⟨within, inTime⟩ := standing.bounded
  refine ⟨by omega, standing.exists_end current,
    fun run => standing.counters, budget_le, ?_⟩
  intro result ended
  rcases standing.concluded ended with
    ⟨first, inBudget, failed, succeeded, isUrl, concluded⟩ |
    ⟨failure, failed, failing, isFailure, concluded⟩
  · constructor
    · intro position _ failedBefore alsoSucceeded
      -- Both are the first success.
      have same : position = first := by
        rcases Nat.lt_trichotomy position first with before | same | behind
        · exact (failed position before alsoSucceeded).elim
        · exact same
        · exact (failedBefore first behind succeeded).elim
      subst same
      exact ⟨isUrl, concluded⟩
    · intro failedAll
      exact (failedAll first inBudget succeeded).elim
  · constructor
    · intro position inBudget _ succeeded
      exact (failed position inBudget succeeded).elim
    · intro _
      exact ⟨failure, failing, isFailure, concluded⟩

/-- An agent that refuses its first connections. -/
def refusals (count retryDelay : Nat) : Trial Unit where
  attempt := { Attempt.new ⟨"w"⟩ 1 3 with channels := ["c"] }
  bus := Bus.empty.subscribe "c" ()
  generation := 1
  retryDelay := retryDelay
  url := "ws://u/ws"
  tries := fun position =>
    { outcome :=
        if position < count then .error (.refused "connection refused")
        else .ok ()
      duration := 0 }

theorem retries_spend_the_budget_of_refusals :
    ∃ connection,
      (refusals 1 5).start.Plays (refusals 1 5).tries
        [.linked (.error (.refused "connection refused")), .tick 5, .woken,
          .linked (.ok ())] connection ∧
      connection.stage = .ended (.ok "ws://u/ws") ∧
      (refusals 1 5).Concluded connection 2
        [⟨0, 5, .connected "ws://u/ws"⟩] := by
  have plays : (refusals 1 5).start.Plays (refusals 1 5).tries
      [.linked (.error (.refused "connection refused")), .tick 5, .woken,
        .linked (.ok ())] _ :=
    .move (.linked rfl) rfl (.move (.tick (by decide) rfl (by decide)) rfl
      (.move .woken rfl (.move (.linked rfl) rfl .done)))
  have current : (refusals 1 5).Current := rfl
  obtain ⟨-, -, -, -, returns⟩ := retries_spend_the_budget current plays
  have failed : (refusals 1 5).FailsUntil 1 := by
    intro position order
    cases Nat.lt_one_iff.mp order
    nofun
  exact ⟨_, plays, rfl, ((returns _ rfl).1 1 (by decide) failed rfl).2⟩

/-- A wait is cut short after thirty years. -/
theorem retry_waits_thirty_years_at_most :
    ∃ connection,
      (refusals 2 946080000001).start.Plays (refusals 2 946080000001).tries
        [.linked (.error (.refused "connection refused")),
          .tick 946080000000, .woken] connection ∧
      (refusals 2 946080000001).ends 0 = 0 ∧
      Entry.openings connection.journal =
        [("ws://u/ws", 946080000000), ("ws://u/ws", 0)] ∧
      946080000000 ≠ (refusals 2 946080000001).ends 0 + 946080000001 :=
  ⟨_, .move (.linked rfl) rfl (.move (.tick (by decide) rfl (by decide)) rfl
      (.move .woken rfl .done)), rfl, rfl, by decide⟩

end Trial

end WorkspaceStartup
