import WorkspaceStartup.Proofs.Service.Decision
import WorkspaceStartup.Proofs.Service.Target

/-!
# Polling for a status

A watch asks for the details of its workspace again and again.  A polling fixes
what is asked of whom, and how and in what time each request is responded to; a
play of it is what can happen then.  Every play stands at one point of the polling
(`Standing`): before the first response that decides, or at the end that this
response makes.
-/

namespace WorkspaceStartup

/-- What a watch asks of whom, and how its requests are responded to. -/
structure Polling where
  service : Service
  id : WorkspaceId
  target : Status
  interval : Nat
  /-- What each request brings, or why it brings nothing. -/
  responses : Nat → Except String Answer
  /-- How many milliseconds each response takes. -/
  durations : Nat → Nat

namespace Polling

/-- A watch, and what it has to do with the service. -/
structure Poll where
  watch : StatusWatch
  /-- The requests that have been sent, in order. -/
  sent : List Request
  /-- What asking for the details brings this time. -/
  coming : Except ControlFailure Workspace

variable {polling : Polling} {poll next last : Poll} {watch : StatusWatch}
  {made position clock : Nat} {moves : List StatusWatch.Move}
  {move : StatusWatch.Move} {result : Except ControlFailure StatusChange}

/-! ## Requests -/

/-- The request for the details, or why it cannot be made. -/
@[irreducible] def request (polling : Polling) : Except ControlFailure Request :=
  polling.service.request (.details polling.id)

/-- Sends requests to a service that responds to them by their number. -/
def exchange (polling : Polling) : Transport (StateM (List Request)) :=
  fun request sent =>
    (replyOf (polling.responses sent.length), sent ++ [request])

/-- The watch asks for the details when some requests have been sent. -/
def ask (polling : Polling) (watch : StatusWatch) (sent : List Request) : Poll :=
  let told :=
    (polling.service.fetchDetails polling.exchange polling.id).run sent
  ⟨watch, told.2, told.1⟩

/-- The first requests. -/
def requests (polling : Polling) (count : Nat) : List Request :=
  match polling.request with
  | .ok request => List.replicate count request
  | .error _ => []

/-- What asking for the details brings at a position. -/
def outcome (polling : Polling) (position : Nat) :
    Except ControlFailure Workspace :=
  match polling.request with
  | .ok _ => detailsOf (polling.responses position)
  | .error failure => .error failure

section Asking

variable {request : Request} {failure : ControlFailure}

theorem requests_of_made (isMade : polling.request = .ok request) (count : Nat) :
    polling.requests count = List.replicate count request := by
  rw [requests, isMade]

theorem requests_of_unmade (unmade : polling.request = .error failure)
    (count : Nat) : polling.requests count = [] := by
  rw [requests, unmade]

theorem outcome_of_made (isMade : polling.request = .ok request)
    (position : Nat) :
    polling.outcome position = detailsOf (polling.responses position) := by
  rw [outcome, isMade]

theorem outcome_of_unmade (unmade : polling.request = .error failure)
    (position : Nat) : polling.outcome position = .error failure := by
  rw [outcome, unmade]

/-- To ask for the details is to send one request. -/
theorem ask_of_made (isMade : polling.request = .ok request)
    (watch : StatusWatch) (sent : List Request) :
    polling.ask watch sent =
      ⟨watch, sent ++ [request], detailsOf (polling.responses sent.length)⟩ := by
  rw [Polling.request] at isMade
  simp only [ask, Service.fetchDetails, Service.ask, Service.reply, isMade]
  rfl

/-- A request that cannot be made is not sent. -/
theorem ask_of_unmade (unmade : polling.request = .error failure)
    (watch : StatusWatch) (sent : List Request) :
    polling.ask watch sent = ⟨watch, sent, .error failure⟩ := by
  rw [Polling.request] at unmade
  simp only [ask, Service.fetchDetails, Service.ask, Service.reply, unmade]
  rfl

theorem ask_requests (polling : Polling) (watch : StatusWatch) (position : Nat) :
    polling.ask watch (polling.requests position) =
      ⟨watch, polling.requests (position + 1), polling.outcome position⟩ := by
  cases isMade : polling.request with
  | error failure =>
      rw [requests_of_unmade isMade, requests_of_unmade isMade,
        ask_of_unmade isMade, outcome_of_unmade isMade]
  | ok request =>
      rw [requests_of_made isMade, requests_of_made isMade, ask_of_made isMade,
        outcome_of_made isMade, List.replicate_succ', List.length_replicate]

end Asking

/-- To ask at a position ends the watch with the result. -/
inductive Settles (polling : Polling) (position : Nat) :
    Except ControlFailure StatusChange → Prop
  | unmade {failure : ControlFailure}
      (unmade : polling.request = .error failure) :
      Settles polling position (.error failure)
  | decided {request : Request} {result : Except ControlFailure StatusChange}
      (made : polling.request = .ok request)
      (decides : Decides polling.target (polling.responses position) result) :
      Settles polling position result

theorem decide?_outcome_eq_some_iff :
    StatusWatch.decide? polling.target (polling.outcome position) = some result ↔
      polling.Settles position result := by
  cases made : polling.request with
  | error failure =>
      rw [outcome_of_unmade made]
      constructor
      · rintro ⟨⟩
        exact .unmade made
      · intro settles
        cases settles with
        | unmade unmade =>
            cases made.symm.trans unmade
            rfl
        | decided isMade => cases made.symm.trans isMade
  | ok request =>
      rw [outcome_of_made made]
      refine decide?_detailsOf_eq_some_iff.trans ⟨.decided made, ?_⟩
      intro settles
      cases settles with
      | unmade unmade => cases made.symm.trans unmade
      | decided _ decides => exact decides

theorem Settles.unique {other : Except ControlFailure StatusChange}
    (settles : polling.Settles position result)
    (settlesOther : polling.Settles position other) : result = other := by
  rw [← decide?_outcome_eq_some_iff] at settles settlesOther
  exact Option.some.inj (settles.symm.trans settlesOther)

theorem decide?_outcome_eq_none_iff :
    StatusWatch.decide? polling.target (polling.outcome position) = none ↔
      ∀ result, ¬polling.Settles position result := by
  simp only [← decide?_outcome_eq_some_iff, Option.eq_none_iff_forall_ne_some]

/-- Nothing that has been asked before a position ends the watch. -/
def UndecidedUntil (polling : Polling) (position : Nat) : Prop :=
  ∀ earlier < position, ∀ result, ¬polling.Settles earlier result

theorem UndecidedUntil.succ (undecided : polling.UndecidedUntil position)
    (settlesNot : ∀ result, ¬polling.Settles position result) :
    polling.UndecidedUntil (position + 1) := by
  intro earlier order
  rcases Nat.lt_succ_iff_lt_or_eq.mp order with before | rfl
  · exact undecided earlier before
  · exact settlesNot

/-! ## Times -/

/-- How many milliseconds asking takes; what cannot be sent takes no time. -/
def lasts (polling : Polling) (position : Nat) : Nat :=
  match polling.request with
  | .ok _ => polling.durations position
  | .error _ => 0

theorem lasts_of_made {request : Request} (isMade : polling.request = .ok request)
    (position : Nat) : polling.lasts position = polling.durations position := by
  rw [lasts, isMade]

/-- When a request is made: the first at once, any other an interval after the
response to the one before, but thirty years after it at the latest. -/
def asksAt (polling : Polling) : Nat → Nat
  | 0 => 0
  | position + 1 =>
      polling.asksAt position + polling.lasts position +
        min polling.interval 946080000000

def respondsAt (polling : Polling) (position : Nat) : Nat :=
  polling.asksAt position + polling.lasts position

theorem asksAt_le_respondsAt (polling : Polling) (position : Nat) :
    polling.asksAt position ≤ polling.respondsAt position :=
  Nat.le_add_right ..

theorem respondsAt_le_asksAt_succ (polling : Polling) (position : Nat) :
    polling.respondsAt position ≤ polling.asksAt (position + 1) :=
  Nat.le_add_right ..

theorem respondsAt_le_respondsAt (polling : Polling) {position later : Nat}
    (order : position ≤ later) :
    polling.respondsAt position ≤ polling.respondsAt later := by
  induction order with
  | refl => exact Nat.le_refl _
  | @step between _ induction =>
      have pause := polling.respondsAt_le_asksAt_succ between
      have response := polling.asksAt_le_respondsAt (between + 1)
      exact Nat.le_trans induction (Nat.le_trans pause response)

/-- The times of the first requests, the latest first. -/
def times (polling : Polling) (count : Nat) : List Nat :=
  ((List.range count).map polling.asksAt).reverse

theorem times_succ (polling : Polling) (count : Nat) :
    polling.times (count + 1) = polling.asksAt count :: polling.times count := by
  simp [times, List.range_succ]

theorem length_times (polling : Polling) (count : Nat) :
    (polling.times count).length = count := by
  simp [times]

/-! ## Plays -/

/-- A watch that has just asked for the first time. -/
def start (polling : Polling) : Poll :=
  polling.ask (.start polling.target polling.interval) []

/-- When what is waited for, be it a response or the end of a pause, is there. -/
def due? (polling : Polling) (watch : StatusWatch) : Option Nat :=
  match watch.stage with
  | .asking =>
      some (watch.asked.headD 0 + polling.lasts (watch.asked.length - 1))
  | .pausing wakeTime => some wakeTime
  | .ended _ => none

/-- What can happen to a watch that is responded to as the polling says.  Time does
not pass what is due. -/
inductive Happens (polling : Polling) (poll : Poll) :
    StatusWatch.Move → Poll → Prop
  | answered {next : StatusWatch}
      (due : polling.due? poll.watch = some poll.watch.clock)
      (taken : poll.watch.step? (.answered poll.coming) = some next) :
      Happens polling poll (.answered poll.coming) { poll with watch := next }
  | woken {next : StatusWatch} (taken : poll.watch.step? .woken = some next) :
      Happens polling poll .woken (polling.ask next poll.sent)
  | tick {milliseconds time : Nat} {next : StatusWatch}
      (passes : 0 < milliseconds) (due : polling.due? poll.watch = some time)
      (inTime : poll.watch.clock + milliseconds ≤ time)
      (taken : poll.watch.step? (.tick milliseconds) = some next) :
      Happens polling poll (.tick milliseconds) { poll with watch := next }

/-- The moves happen one after the other. -/
inductive Plays (polling : Polling) : Poll → List StatusWatch.Move → Poll → Prop
  | done {poll : Poll} : Plays polling poll [] poll
  | move {poll next last : Poll} {move : StatusWatch.Move}
      {moves : List StatusWatch.Move} (happens : polling.Happens poll move next)
      (rest : Plays polling next moves last) :
      Plays polling poll (move :: moves) last

/-- The poll when it has asked at a position, at a time and in a stage. -/
def after (polling : Polling) (position clock : Nat) (stage : WatchStage) :
    Poll where
  watch :=
    { target := polling.target
      interval := polling.interval
      clock := clock
      asked := polling.times (position + 1)
      stage := stage }
  sent := polling.requests (position + 1)
  coming := polling.outcome position

/-- A point of the polling that a poll can stand at, and how many responses and
pauses have come to their end before. -/
inductive Standing (polling : Polling) : Nat → Poll → Prop
  | asking {position clock : Nat}
      (undecided : polling.UndecidedUntil position)
      (begun : polling.asksAt position ≤ clock)
      (inTime : clock ≤ polling.respondsAt position) :
      Standing polling (2 * position) (polling.after position clock .asking)
  | pausing {position clock : Nat}
      (undecided : polling.UndecidedUntil (position + 1))
      (begun : polling.respondsAt position ≤ clock)
      (asleep : clock ≤ polling.asksAt (position + 1)) :
      Standing polling (2 * position + 1)
        (polling.after position clock
          (.pausing (polling.asksAt (position + 1))))
  | ended {position : Nat} {result : Except ControlFailure StatusChange}
      (undecided : polling.UndecidedUntil position)
      (settles : polling.Settles position result) :
      Standing polling (2 * position + 1)
        (polling.after position (polling.respondsAt position) (.ended result))

/-! ## Moves -/

theorem underway_after (polling : Polling) (position clock : Nat)
    (stage : WatchStage) :
    (polling.after position clock stage).watch.asked.length - 1 = position := by
  rw [after, length_times, Nat.add_sub_cancel]

theorem due?_asking (polling : Polling) (position clock : Nat) :
    polling.due? (polling.after position clock .asking).watch =
      some (polling.respondsAt position) := by
  have number := polling.underway_after position clock .asking
  change some (_ + polling.lasts _) = _
  rw [number, after, times_succ]
  rfl

theorem standing_start (polling : Polling) :
    polling.Standing 0 polling.start := by
  have none : polling.requests 0 = [] := by
    unfold requests
    cases polling.request <;> rfl
  have begins : polling.start = polling.after 0 0 .asking := by
    rw [start, ← none, ask_requests]
    rfl
  rw [begins]
  exact .asking (fun _ order => (Nat.not_lt_zero _ order).elim) (Nat.le_refl _)
    (polling.asksAt_le_respondsAt 0)

/-- Within a position only the time and the stage change. -/
theorem after_with (polling : Polling) (position clock later : Nat)
    (stage other : WatchStage) :
    { polling.after position clock stage with
      watch := (polling.after position later other).watch } =
        polling.after position later other :=
  rfl

/-- A response brings the poll to the next point. -/
theorem exists_standing_answered
    (undecided : polling.UndecidedUntil position) :
    ∃ stage,
      (polling.after position (polling.respondsAt position) .asking).watch.step?
          (.answered (polling.outcome position)) =
        some (polling.after position (polling.respondsAt position) stage).watch ∧
      polling.Standing (2 * position + 1)
        (polling.after position (polling.respondsAt position) stage) := by
  cases decided : StatusWatch.decide? polling.target
      (polling.outcome position) with
  | some result =>
      have settles := decide?_outcome_eq_some_iff.mp decided
      refine ⟨.ended result, ?_, .ended undecided settles⟩
      simp [StatusWatch.step?, after, decided]
  | none =>
      have settlesNot := decide?_outcome_eq_none_iff.mp decided
      refine ⟨.pausing (polling.asksAt (position + 1)), ?_,
        .pausing (undecided.succ settlesNot) (Nat.le_refl _)
          (polling.respondsAt_le_asksAt_succ position)⟩
      simp only [StatusWatch.step?, after, decided]
      rfl

/-- Time passes, and all else stays. -/
theorem tick_after (polling : Polling) (position clock : Nat)
    (stage : WatchStage) (milliseconds : Nat) :
    (polling.after position clock stage).watch.step? (.tick milliseconds) =
      some (polling.after position (clock + milliseconds) stage).watch :=
  rfl

theorem due?_pausing (polling : Polling) (position clock time : Nat) :
    polling.due? (polling.after position clock (.pausing time)).watch =
      some time :=
  rfl

/-- When a pause is over, the next request is made. -/
theorem step?_woken (polling : Polling) (position clock : Nat) :
    (polling.after position clock
        (.pausing (polling.asksAt (position + 1)))).watch.step? .woken =
      if polling.asksAt (position + 1) ≤ clock then
        some { (polling.after position clock .asking).watch with
          asked := clock :: polling.times (position + 1) }
      else none :=
  rfl

theorem ask_again (polling : Polling) (position : Nat) :
    polling.ask
        { (polling.after position (polling.asksAt (position + 1))
            .asking).watch with
          asked :=
            polling.asksAt (position + 1) :: polling.times (position + 1) }
        (polling.requests (position + 1)) =
      polling.after (position + 1) (polling.asksAt (position + 1)) .asking := by
  rw [← times_succ, ask_requests]
  rfl

/-- What happens brings the poll on: a response or a pause comes to its end, or
time passes. -/
theorem Standing.step (standing : polling.Standing made poll)
    (happens : polling.Happens poll move next) :
    ∃ later, polling.Standing later next ∧
      made + poll.watch.clock < later + next.watch.clock := by
  cases standing with
  | @asking position clock undecided begun inTime =>
      cases happens with
      | answered due taken =>
          rw [due?_asking] at due
          have now : polling.respondsAt position = clock := Option.some.inj due
          subst now
          obtain ⟨stage, isNext, standing⟩ := exists_standing_answered undecided
          have same := Option.some.inj (taken.symm.trans isNext)
          subst same
          rw [after_with]
          exact ⟨_, standing, Nat.add_lt_add_right (Nat.lt_succ_self _) _⟩
      | woken taken => cases taken
      | @tick milliseconds time _ passes due further taken =>
          rw [due?_asking, Option.some.injEq] at due
          rw [tick_after, Option.some.injEq] at taken
          subst due taken
          rw [after_with]
          refine ⟨_, .asking undecided ?_ further, ?_⟩
          · exact Nat.le_trans begun (Nat.le_add_right ..)
          · exact Nat.add_lt_add_left (Nat.lt_add_of_pos_right passes) _
  | @pausing position clock undecided begun asleep =>
      cases happens with
      | answered _ taken => cases taken
      | woken taken =>
          rw [step?_woken, Option.ite_none_right_eq_some] at taken
          obtain ⟨elapsed, isNext⟩ := taken
          have now : clock = polling.asksAt (position + 1) :=
            Nat.le_antisymm asleep elapsed
          subst now
          cases isNext
          have standing : polling.Standing (2 * (position + 1))
              (polling.after (position + 1) (polling.asksAt (position + 1))
                .asking) :=
            .asking undecided (Nat.le_refl _) (polling.asksAt_le_respondsAt _)
          rw [← ask_again] at standing
          exact ⟨_, standing, Nat.add_lt_add_right (by omega) _⟩
      | @tick milliseconds time _ passes due further taken =>
          rw [due?_pausing, Option.some.injEq] at due
          rw [tick_after, Option.some.injEq] at taken
          subst due taken
          rw [after_with]
          refine ⟨_, .pausing undecided ?_ further, ?_⟩
          · exact Nat.le_trans begun (Nat.le_add_right ..)
          · exact Nat.add_lt_add_left (Nat.lt_add_of_pos_right passes) _
  | ended =>
      cases happens with
      | answered _ taken => cases taken
      | woken taken => cases taken
      | tick _ due => cases due

theorem Standing.of_plays (standing : polling.Standing made poll)
    (plays : polling.Plays poll moves last) :
    ∃ later, polling.Standing later last ∧
      made + poll.watch.clock + moves.length ≤ later + last.watch.clock := by
  induction plays generalizing made with
  | done => exact ⟨made, standing, Nat.le_refl _⟩
  | move happens rest induction =>
      obtain ⟨between, stands, further⟩ := standing.step happens
      obtain ⟨later, standsLast, furthest⟩ := induction stands
      refine ⟨later, standsLast, ?_⟩
      rw [List.length_cons]
      omega

/-! ## How plays go on -/

/-- As long as the watch has not ended, something can happen. -/
theorem Standing.progress (standing : polling.Standing made poll)
    (active : ∀ result, poll.watch.stage ≠ .ended result) :
    ∃ move next, polling.Happens poll move next := by
  cases standing with
  | @asking position clock undecided begun inTime =>
      have due := polling.due?_asking position clock
      by_cases now : clock = polling.respondsAt position
      · subst now
        obtain ⟨next, taken, -⟩ := exists_standing_answered undecided
        exact ⟨_, _, .answered due taken⟩
      · have passes : 0 < polling.respondsAt position - clock := by omega
        refine ⟨_, _, .tick passes due ?_ (polling.tick_after ..)⟩
        exact Nat.le_of_eq (Nat.add_sub_cancel' inTime)
  | @pausing position clock undecided begun asleep =>
      by_cases now : clock = polling.asksAt (position + 1)
      · exact ⟨_, _, .woken ((polling.step?_woken ..).trans
          (if_pos (Nat.le_of_eq now.symm)))⟩
      · have passes : 0 < polling.asksAt (position + 1) - clock := by omega
        refine ⟨_, _, .tick passes (polling.due?_pausing ..) ?_
          (polling.tick_after ..)⟩
        exact Nat.le_of_eq (Nat.add_sub_cancel' asleep)
  | ended => exact (active _ rfl).elim

/-- A play goes on to where it may stop, if there is a bound up to there. -/
theorem Standing.exists_play (standing : polling.Standing made poll)
    {stops : Poll → Prop} {bound : Nat}
    (goesOn : ∀ made poll, polling.Standing made poll → ¬stops poll →
      (∀ result, poll.watch.stage ≠ .ended result) ∧
        made + poll.watch.clock ≤ bound) :
    ∃ moves last, polling.Plays poll moves last ∧ stops last := by
  -- Each move brings the poll closer to the bound.
  induction left : bound + 1 - (made + poll.watch.clock) using Nat.strongRecOn
    generalizing made poll with
  | ind left induction =>
      by_cases stopped : stops poll
      · exact ⟨[], poll, .done, stopped⟩
      · obtain ⟨active, within⟩ := goesOn made poll standing stopped
        obtain ⟨move, next, happens⟩ := standing.progress active
        obtain ⟨later, stands, further⟩ := standing.step happens
        obtain ⟨moves, last, plays, stopsLast⟩ :=
          induction _ (by omega) stands rfl
        exact ⟨move :: moves, last, .move happens plays, stopsLast⟩

/-- The first position that ends the watch is the last that there is. -/
theorem Standing.bounded (standing : polling.Standing made poll)
    (undecided : polling.UndecidedUntil position)
    (settles : polling.Settles position result) :
    made ≤ 2 * position + 1 ∧ poll.watch.clock ≤ polling.respondsAt position ∧
      ∀ other, poll.watch.stage = .ended other →
        other = result ∧ poll.watch.asked.length = position + 1 := by
  have notBehind {other : Nat} (undecidedOther : polling.UndecidedUntil other) :
      other ≤ position :=
    Nat.le_of_not_lt fun behind =>
      undecidedOther position behind result settles
  cases standing with
  | asking undecidedHere begun inTime =>
      have order := notBehind undecidedHere
      exact ⟨by omega,
        Nat.le_trans inTime (polling.respondsAt_le_respondsAt order), nofun⟩
  | @pausing here _ undecidedHere begun asleep =>
      have order := notBehind undecidedHere
      have responds := polling.asksAt_le_respondsAt (here + 1)
      have later := polling.respondsAt_le_respondsAt order
      exact ⟨by omega, Nat.le_trans asleep (Nat.le_trans responds later), nofun⟩
  | @ended here resultHere undecidedHere settlesHere =>
      have order := notBehind undecidedHere
      have same : here = position :=
        Nat.le_antisymm order (Nat.le_of_not_lt fun before =>
          undecided here before resultHere settlesHere)
      subst same
      refine ⟨Nat.le_refl _, Nat.le_refl _, ?_⟩
      rintro other ⟨⟩
      exact ⟨settlesHere.unique settles, polling.length_times _⟩

theorem Standing.not_ended (standing : polling.Standing made poll)
    (never : ∀ position, polling.UndecidedUntil position)
    (result : Except ControlFailure StatusChange) :
    poll.watch.stage ≠ .ended result := by
  cases standing with
  | asking | pausing => nofun
  | @ended position _ _ settles =>
      exact (never (position + 1) position (Nat.lt_succ_self _) _ settles).elim

/-- The number of requests is a bound to moves and time. -/
theorem Standing.within (standing : polling.Standing made poll) :
    made + poll.watch.clock ≤ 2 * poll.watch.asked.length +
      polling.respondsAt poll.watch.asked.length := by
  have later (position : Nat) :
      polling.respondsAt position ≤ polling.respondsAt (position + 1) :=
    polling.respondsAt_le_respondsAt (Nat.le_succ position)
  cases standing with
  | @asking position clock _ _ inTime =>
      rw [after, length_times]
      exact Nat.add_le_add (by omega) (Nat.le_trans inTime (later position))
  | @pausing position clock _ _ asleep =>
      rw [after, length_times]
      exact Nat.add_le_add (by omega)
        (Nat.le_trans asleep (polling.asksAt_le_respondsAt _))
  | @ended position =>
      rw [after, length_times]
      exact Nat.add_le_add (by omega) (later position)

/-- If nothing ends the watch, there are ever more requests. -/
theorem Standing.exists_asked (standing : polling.Standing made poll)
    (never : ∀ position, polling.UndecidedUntil position) (count : Nat) :
    ∃ moves last, polling.Plays poll moves last ∧
      count ≤ last.watch.asked.length := by
  have goesOn (made : Nat) (poll : Poll)
      (standing : polling.Standing made poll)
      (few : ¬count ≤ poll.watch.asked.length) :
      (∀ result, poll.watch.stage ≠ .ended result) ∧
        made + poll.watch.clock ≤ 2 * count + polling.respondsAt count := by
    have within := standing.within
    have later := polling.respondsAt_le_respondsAt (Nat.le_of_not_le few)
    exact ⟨standing.not_ended never, by omega⟩
  exact standing.exists_play goesOn

/-- If something ends the watch, the watch comes to its end. -/
theorem Standing.exists_end (standing : polling.Standing made poll)
    (undecided : polling.UndecidedUntil position)
    (settles : polling.Settles position result) :
    ∃ moves last, polling.Plays poll moves last ∧
      last.watch.stage = .ended result ∧
      last.watch.asked.length = position + 1 := by
  have goesOn (made : Nat) (poll : Poll)
      (standing : polling.Standing made poll)
      (active : ¬∃ other, poll.watch.stage = .ended other) :
      (∀ other, poll.watch.stage ≠ .ended other) ∧
        made + poll.watch.clock ≤
          2 * position + 1 + polling.respondsAt position := by
    obtain ⟨few, inTime, -⟩ := standing.bounded undecided settles
    exact ⟨fun other ended => active ⟨other, ended⟩, by omega⟩
  obtain ⟨moves, last, plays, other, ended⟩ :=
    standing.exists_play goesOn
  obtain ⟨later, stands, -⟩ := standing.of_plays plays
  obtain ⟨-, -, only⟩ := stands.bounded undecided settles
  obtain ⟨rfl, number⟩ := only other ended
  exact ⟨moves, last, plays, ended, number⟩

/-! ## What is asked and when -/

/-- What a watch has asked, and how it has ended if it has. -/
structure Faithful (polling : Polling) (poll : Poll) : Prop where
  /-- It has asked at its times, one after the other. -/
  asked : poll.watch.asked.reverse =
    (List.range poll.watch.asked.length).map polling.asksAt
  /-- Each time it has sent the request for the details of its workspace. -/
  sent : ∀ request, polling.request = .ok request →
    polling.service.IsForDetails polling.id request ∧
      poll.sent = List.replicate poll.watch.asked.length request
  /-- What cannot be sent is not sent. -/
  unsent : ∀ failure, polling.request = .error failure →
    (∃ detail, failure = .transport detail) ∧ poll.sent = []
  /-- Nothing that it asked before the latest time ends it. -/
  undecided : polling.UndecidedUntil (poll.watch.asked.length - 1)
  ended : ∀ result, poll.watch.stage = .ended result →
    0 < poll.watch.asked.length ∧
      polling.Settles (poll.watch.asked.length - 1) result ∧
      poll.watch.clock = polling.respondsAt (poll.watch.asked.length - 1)

theorem faithful_after {stage : WatchStage}
    (undecided : polling.UndecidedUntil position)
    (ended : ∀ result, stage = .ended result →
      polling.Settles position result ∧ clock = polling.respondsAt position) :
    polling.Faithful (polling.after position clock stage) where
  asked := by
    change (polling.times (position + 1)).reverse = _
    rw [after, length_times, times, List.reverse_reverse]
  sent := by
    intro request isMade
    rw [after, length_times, requests_of_made isMade]
    rw [Polling.request] at isMade
    exact ⟨Service.isForDetails_of_request isMade, rfl⟩
  unsent := by
    intro failure unmade
    rw [after, requests_of_unmade unmade]
    rw [Polling.request] at unmade
    exact ⟨Service.exists_detail_of_request unmade, rfl⟩
  undecided := by
    rw [underway_after]
    exact undecided
  ended := by
    intro result isEnded
    obtain ⟨settles, time⟩ := ended result isEnded
    rw [underway_after, after, length_times]
    exact ⟨Nat.succ_pos _, settles, time⟩

theorem Standing.faithful (standing : polling.Standing made poll) :
    polling.Faithful poll := by
  cases standing with
  | asking undecided => exact faithful_after undecided nofun
  | @pausing position _ undecided =>
      refine faithful_after (fun earlier before => ?_) nofun
      exact undecided earlier (Nat.lt_succ_of_lt before)
  | ended undecided settles =>
      refine faithful_after undecided ?_
      rintro other ⟨⟩
      exact ⟨settles, rfl⟩

/-- A watch ends with the first response that decides, and with nothing else.  Until
then it sends one request for the details of its workspace after the other, an
interval after each response or thirty years after it at the latest, and it does so
for ever if no response decides.  If the request cannot be made, nothing is sent,
and the watch ends at once with what is wrong. -/
theorem watch_ends_with_first_deciding_response
    (plays : polling.Plays polling.start moves poll) :
    polling.Faithful poll ∧
    (∀ position,
      (polling.interval ≤ 946080000000 →
        polling.asksAt (position + 1) =
          polling.respondsAt position + polling.interval) ∧
      (946080000000 ≤ polling.interval →
        polling.asksAt (position + 1) =
          polling.respondsAt position + 946080000000)) ∧
    (∀ change, poll.watch.stage = .ended (.ok change) →
      change.status = polling.target ∧ change.error = none ∧
        ∃ answer,
          polling.responses (poll.watch.asked.length - 1) = .ok answer ∧
            answer.Succeeds) ∧
    (∀ position result, polling.UndecidedUntil position →
      polling.Settles position result →
      moves.length ≤ 2 * position + 1 + polling.respondsAt position ∧
        (∀ other, poll.watch.stage = .ended other →
          other = result ∧ poll.watch.asked.length = position + 1) ∧
        ∃ rest last, polling.Plays poll rest last ∧
          last.watch.stage = .ended result ∧
          last.watch.asked.length = position + 1) ∧
    ((∀ position, polling.UndecidedUntil position) →
      (∀ result, poll.watch.stage ≠ .ended result) ∧
        ∀ count, ∃ rest last, polling.Plays poll rest last ∧
          count ≤ last.watch.asked.length) := by
  obtain ⟨reached, standing, further⟩ :=
    polling.standing_start.of_plays plays
  have faithful := standing.faithful
  refine ⟨faithful, ?_, ?_, ?_, ?_⟩
  · intro position
    exact ⟨fun short => congrArg (_ + ·) (Nat.min_eq_left short),
      fun long => congrArg (_ + ·) (Nat.min_eq_right long)⟩
  · intro change ended
    obtain ⟨-, settles, -⟩ := faithful.ended _ ended
    cases settles with
    | decided _ decides =>
        generalize polling.responses _ = response at decides
        cases decides with
        | reached succeeds => exact ⟨rfl, rfl, _, rfl, succeeds⟩
  · intro position result undecided settles
    obtain ⟨few, inTime, only⟩ := standing.bounded undecided settles
    have begins : polling.start.watch.clock = 0 := rfl
    exact ⟨by omega, only, standing.exists_end undecided settles⟩
  · intro never
    exact ⟨standing.not_ended never, standing.exists_asked never⟩

/-- An answer that tells of a workspace in a status. -/
def told (status : String) : Answer :=
  let config := "\x7b\"name\":\"n\",\"defaultEnv\":\"default\"\x7d"
  let body := "\x7b\"id\":\"w1\",\"status\":\"" ++ status ++
    "\",\"config\":" ++ config ++ "\x7d"
  ⟨200, Text.bytesOf body.toList⟩

/-- A workspace that runs when it is asked for the second time. -/
def startup (interval : Nat) : Polling where
  service := ⟨"http://server"⟩
  id := ⟨"w1"⟩
  target := .running
  interval := interval
  responses position := .ok (told (if position = 0 then "STARTING" else "RUNNING"))
  durations _ := 20

/-- A service that only announces answers. -/
def announcing : Polling :=
  { startup 1000 with
    responses := fun _ =>
      .ok ⟨150, Text.bytesOf "\x7b\"message\":\"odd\"\x7d".toList⟩ }

theorem exists_request (polling : Polling)
    (service : polling.service = ⟨"http://server"⟩) (id : polling.id = ⟨"w1"⟩) :
    ∃ request, polling.request = .ok request ∧
      request.url.target = "/api/workspace/w1" := by
  have isTarget : (Service.request ⟨"http://server"⟩
      (.details ⟨"w1"⟩)).toOption.map (·.url.target) =
        some "/api/workspace/w1" := by
    decide +kernel
  rw [Polling.request, service, id]
  cases isMade : Service.request ⟨"http://server"⟩ (.details ⟨"w1"⟩) with
  | error => rw [isMade] at isTarget; cases isTarget
  | ok request =>
      rw [isMade] at isTarget
      exact ⟨request, rfl, Option.some.inj isTarget⟩

theorem decides_told :
    Decides .running (.ok (told "RUNNING")) (.ok ⟨⟨"w1"⟩, .running, none⟩) := by
  have isTold : (detailsOf (.ok (told "RUNNING"))).toOption.map
      (fun workspace => (workspace.id, workspace.status)) =
        some (⟨"w1"⟩, .running) := by
    decide +kernel
  rw [← decide?_detailsOf_eq_some_iff]
  cases details : detailsOf (.ok (told "RUNNING")) with
  | error => rw [details] at isTold; cases isTold
  | ok workspace =>
      rw [details] at isTold
      obtain ⟨isId, isStatus⟩ := Prod.mk.inj (Option.some.inj isTold)
      change (if workspace.status = .running then _ else _) = _
      rw [if_pos isStatus, isId, isStatus]

/-- Only the second response decides. -/
theorem startup_settles (interval : Nat) :
    (startup interval).UndecidedUntil 1 ∧
      (startup interval).Settles 1 (.ok ⟨⟨"w1"⟩, .running, none⟩) := by
  obtain ⟨request, isMade, -⟩ := (startup interval).exists_request rfl rfl
  constructor
  · intro position order result settles
    cases Nat.lt_one_iff.mp order
    cases settles with
    | unmade unmade => cases isMade.symm.trans unmade
    | decided _ decides =>
        have waits : StatusWatch.decide? .running
            (detailsOf (.ok (told "STARTING"))) = none := by
          decide +kernel
        have ends := decide?_detailsOf_eq_some_iff.mpr decides
        cases waits.symm.trans ends
  · exact .decided isMade decides_told

theorem times_of_startup (interval : Nat) :
    (startup interval).respondsAt 0 = 20 ∧
      (List.range 2).map (startup interval).asksAt =
        [0, 20 + min interval 946080000000] := by
  obtain ⟨request, isMade, -⟩ := (startup interval).exists_request rfl rfl
  have lasts : (startup interval).lasts 0 = 20 := lasts_of_made isMade 0
  have isInterval : (startup interval).interval = interval := rfl
  simp [List.range_succ, respondsAt, asksAt, lasts, isInterval]

theorem watch_ends_with_first_deciding_response_of_startup :
    ∃ moves poll, (startup 1000).Plays (startup 1000).start moves poll ∧
      poll.watch.stage = .ended (.ok ⟨⟨"w1"⟩, .running, none⟩) ∧
      poll.watch.asked.reverse = [0, 1020] ∧
      poll.sent.map (fun request =>
          (request.method.word, request.url.target, request.body)) =
        [("GET", "/api/workspace/w1", ""), ("GET", "/api/workspace/w1", "")] := by
  have begun : (startup 1000).Plays (startup 1000).start [] (startup 1000).start :=
    .done
  obtain ⟨undecided, settles⟩ := startup_settles 1000
  obtain ⟨-, -, -, ending, -⟩ := watch_ends_with_first_deciding_response begun
  obtain ⟨-, -, moves, poll, plays, ended, number⟩ :=
    ending 1 _ undecided settles
  obtain ⟨faithful, -⟩ := watch_ends_with_first_deciding_response plays
  obtain ⟨request, isMade, isTarget⟩ := (startup 1000).exists_request rfl rfl
  obtain ⟨isFor, sent⟩ := faithful.sent request isMade
  refine ⟨moves, poll, plays, ended, ?_, ?_⟩
  · rw [faithful.asked, number]
    exact (times_of_startup 1000).2
  · rw [sent, number]
    simp [List.replicate, isFor.method, isFor.body, isTarget, Method.word]

/-- A pause is over after thirty years, however long the interval is, and an answer
that is only announced is none, whatever its status. -/
theorem pauses_are_cut_and_announcements_lost :
    (∃ moves poll,
      (startup 946080000001).Plays (startup 946080000001).start moves poll ∧
        poll.watch.asked.reverse = [0, 946080000020] ∧
        (startup 946080000001).respondsAt 0 = 20 ∧
        946080000020 ≠ 20 + 946080000001) ∧
    ∃ moves poll, announcing.Plays announcing.start moves poll ∧
      poll.watch.stage = .ended (.error (.transport "error sending request")) ∧
      announcing.responses (poll.watch.asked.length - 1) =
        .ok ⟨150, Text.bytesOf "\x7b\"message\":\"odd\"\x7d".toList⟩ ∧
      ∀ message,
        poll.watch.stage ≠ .ended (.error (.answered 150 message)) := by
  obtain ⟨request, isMade, -⟩ := announcing.exists_request rfl rfl
  constructor
  · obtain ⟨undecided, settles⟩ := startup_settles 946080000001
    have standing := (startup 946080000001).standing_start
    obtain ⟨moves, poll, plays, -, number⟩ := standing.exists_end undecided settles
    obtain ⟨reached, stands, -⟩ := standing.of_plays plays
    obtain ⟨responds, times⟩ := times_of_startup 946080000001
    refine ⟨moves, poll, plays, ?_, responds, by decide⟩
    rw [stands.faithful.asked, number]
    exact times
  · have undecided : announcing.UndecidedUntil 0 :=
      fun _ order => (Nat.not_lt_zero _ order).elim
    have settles : announcing.Settles 0
        (.error (.transport "error sending request")) :=
      .decided isMade (.unfinished (by simp [Answer.IsFinal]))
    obtain ⟨moves, poll, plays, ended, -⟩ :=
      announcing.standing_start.exists_end undecided settles
    refine ⟨moves, poll, plays, ended, rfl, ?_⟩
    intro message same
    rw [ended] at same
    cases same

end Polling

end WorkspaceStartup
