import WorkspaceStartup.Proofs.Controller.Milestone
import WorkspaceStartup.Proofs.Controller.Settled
import WorkspaceStartup.Proofs.Journal

/-!
# Connections are closed

A start gets at most one connection from the link, with the move that ends its
opening, and the connection is closed in that very move, whether the call then
returns a success or the start has been superseded meanwhile.  No other move
opens or closes a connection, so none is left open between moves.
-/

namespace WorkspaceStartup

/-- The deed, if it is about a connection. -/
def Deed.linkage? : Deed → Option Deed
  | .connected url => some (.connected url)
  | .closed url => some (.closed url)
  | _ => none

theorem Deed.linkage?_eq_none {deed : Deed} (plain : deed.isMilestone = false) :
    deed.linkage? = none := by
  cases deed with
  | announced | reported | askedStart | askedStatus | askedDetails
  | opened => rfl
  | connected | closed => cases plain

/-- The link returns a connection to the start with the move. -/
def Move.connects (start : Nat) (move : Move) : Bool :=
  move.connects? == some start

namespace Controller

variable {config : Config} {controller next : Controller} {start other : Nat}
  {attempt : Attempt} {id : WorkspaceId} {moves : List Move} {move : Move}

/-- The connections that a start has got and those it has closed, the latest
first. -/
def linkage (controller : Controller) (start : Nat) : List Deed :=
  Entry.select Deed.linkage? start controller.journal

theorem linkage_enter_of_none {deed : Deed} (nothing : deed.linkage? = none) :
    (controller.enter start deed).linkage other = controller.linkage other :=
  Entry.select_cons_of_none nothing

theorem linkage_enter {deed : Deed} (about : deed.linkage? = some deed) :
    (controller.enter start deed).linkage other =
      if start = other then deed :: controller.linkage other
      else controller.linkage other := by
  rw [linkage, enter, Entry.select_cons, about]
  rfl

theorem linkage_teardown (start other : Nat) :
    (controller.teardown start).linkage other = controller.linkage other := by
  rw [linkage, journal_teardown, linkage]

theorem linkage_advance (step : Nat) :
    (controller.advance start id step).linkage other =
      controller.linkage other := by
  unfold advance
  split
  · exact linkage_enter_of_none rfl
  · rfl

theorem Calm.linkage_eq (calm : Calm controller next) (start : Nat) :
    next.linkage start = controller.linkage start := by
  obtain ⟨added, journal, plain⟩ := calm.journal
  rw [linkage, journal]
  refine Entry.select_append_of_none ?_
  exact fun item member => Deed.linkage?_eq_none (plain item member)

theorem linkage_begin (environment : String) (start : Nat) :
    (controller.begin id environment).linkage start =
      controller.linkage start := by
  have withdrawn : ∀ item ∈ controller.supersession?.toList,
      item.deed.linkage? = none := by
    intro item member
    obtain ⟨actor, entry, -, rfl⟩ := eq_of_mem_supersession? member
    rfl
  rw [linkage, journal_begin, Entry.select_cons_of_none,
    Entry.select_cons_of_none, Entry.select_cons_of_none,
    Entry.select_append_of_none withdrawn]
  · rfl
  · rfl
  · rfl
  · rfl

/-- The connection that ends an opening is closed in the same move. -/
theorem linkage_takeTurn_connected (url : String) :
    (controller.takeTurn start attempt (.connected url)).linkage other =
      if start = other then
        .closed url :: .connected url :: controller.linkage other
      else controller.linkage other := by
  have linked : (controller.linked start url).linkage other =
      if start = other then
        .closed url :: .connected url :: controller.linkage other
      else controller.linkage other := by
    rw [Controller.linked, linkage_enter rfl, linkage_teardown,
      linkage_enter rfl]
    split
    · rfl
    · rfl
  rw [takeTurn_connected, ← linked]
  split
  · refine (linkage_enter_of_none rfl).trans ?_
    exact (linkage_enter_of_none rfl).trans (linkage_advance _)
  · exact linkage_teardown start other

/-- The link has returned nothing to the start yet; or it has returned one
connection with the moves, which is closed, and the call is over. -/
def Linkage (moves : List Move) (controller : Controller) (start : Nat) :
    Prop :=
  moves.countP (Move.connects start) = 0 ∧ controller.linkage start = [] ∨
    moves.countP (Move.connects start) = 1 ∧
      (∃ url, controller.linkage start = [.closed url, .connected url]) ∧
      ∃ result, controller.call? start = some (.returned result)

namespace Linkage

theorem of_same (linkage : Linkage moves controller start)
    (follows : controller.Follows move next)
    (elsewhere : move.connects start = false)
    (same : next.linkage start = controller.linkage start) :
    Linkage (moves ++ [move]) next start := by
  have count : (moves ++ [move]).countP (Move.connects start) =
      moves.countP (Move.connects start) := by
    simp [List.countP_append, elsewhere]
  rw [Linkage, count, same]
  refine linkage.imp_right ?_
  rintro ⟨one, closed, result, returned⟩
  exact ⟨one, closed, result, follows.call?_of_ended returned nofun⟩

theorem step (linkage : ∀ start, Linkage moves controller start)
    (follows : controller.Follows move next)
    (taken : controller.step? move = some next) (start : Nat) :
    Linkage (moves ++ [move]) next start := by
  cases passes_of_step? taken with
  | begun id environment =>
      refine (linkage start).of_same follows rfl ?_
      exact linkage_begin environment start
  | calm _ offline calm =>
      refine (linkage start).of_same follows ?_ (calm.linkage_eq start)
      simp [Move.connects, offline]
  | told heard _ _ calm =>
      refine (linkage start).of_same follows ?_ ?_
      · simp [Move.connects, (Move.plain_of_handler? heard).2]
      · exact (calm.linkage_eq start).trans (linkage_advance _)
  | @connected actor entry run found pending =>
      by_cases same : actor = start
      · subst same
        -- The call was pending, so the link had returned nothing before.
        rcases linkage actor with ⟨none, nothing⟩ | ⟨-, -, result, returned⟩
        · refine .inr ⟨?_, ⟨run.url, ?_⟩, ?_⟩
          · simp [List.countP_append, none, Move.connects, Move.connects?]
          · rw [linkage_takeTurn_connected, if_pos rfl, nothing]
          · rw [call?_takeTurn_connected, if_pos rfl, call?_of_found found]
            exact ⟨_, rfl⟩
        · rw [call?_of_found found, pending] at returned
          cases returned
      · refine (linkage start).of_same follows ?_ ?_
        · simpa [Move.connects, Move.connects?] using same
        · rw [linkage_takeTurn_connected, if_neg same]

theorem of_run (ran : (Controller.new config).run? moves = some controller)
    (start : Nat) : Linkage moves controller start := by
  refine history_induction (fun moves controller =>
    ∀ start, Linkage moves controller start) ?_ ?_ ran start
  · intro start
    exact .inl ⟨rfl, rfl⟩
  · intro moves controller move next ran taken linkage start
    exact step linkage ((Reachable.new.run ran).follows taken) taken start

end Linkage

/-- After every run, a start to which the link has returned a connection has got
only that one and has closed it once.  A connection that comes after the start
has been superseded is closed, too, while the call returns that it is. -/
theorem connections_are_closed_once
    (ran : (Controller.new config).run? moves = some controller) :
    (∀ start,
      moves.countP (Move.connects start) = 0 ∧
          controller.linkage start = [] ∨
        moves.countP (Move.connects start) = 1 ∧
          ∃ url, controller.linkage start = [.closed url, .connected url]) ∧
    ∀ start run, controller.call? start = some (.pending (.opening run)) →
      ∃ next, controller.step? (.linked start (.ok ())) = some next ∧
        next.linkage start = [.closed run.url, .connected run.url] ∧
        (controller.Superseded start →
          next.call? start = some (.returned (.error .superseded))) := by
  have linkage := Linkage.of_run ran
  constructor
  · intro start
    refine (linkage start).imp_right ?_
    rintro ⟨one, closed, -⟩
    exact ⟨one, closed⟩
  · intro start run pending
    obtain ⟨entry, found, waits⟩ := pending?_of_call? pending
    have taken : controller.step? (.linked start (.ok ())) =
        some (controller.takeTurn start entry.attempt
          (.connected run.url)) := by
      simp only [step?, waits]
      rfl
    refine ⟨_, taken, ?_, ?_⟩
    · rcases linkage start with ⟨-, nothing⟩ | ⟨-, -, result, returned⟩
      · rw [linkage_takeTurn_connected, if_pos rfl, nothing]
      · rw [pending] at returned
        cases returned
    · intro late
      have stale := (Reachable.new.run ran).late late found
      rw [call?_takeTurn_connected, if_pos rfl, pending]
      simp [stale]

theorem connections_are_closed_once_after_restart :
    ∃ controller next,
      (Controller.new ⟨1, 0, .fixedPort 1⟩).run?
          (restartWhileOpening ⟨"v"⟩ ⟨"w"⟩) = some controller ∧
      controller.step? (.linked 0 (.ok ())) = some next ∧
      next.linkage 0 =
        [.closed "ws://[::1]:1/", .connected "ws://[::1]:1/"] ∧
      next.call? 0 = some (.returned (.error .superseded)) := by
  have waits : ((Controller.new ⟨1, 0, .fixedPort 1⟩).run?
      (restartWhileOpening ⟨"v"⟩ ⟨"w"⟩)).map stages =
    some [some (.opening ⟨"ws://[::1]:1/", 1, 1⟩), some .starting] := by
    decide +kernel
  obtain ⟨controller, ran, stages⟩ := Option.map_eq_some_iff.mp waits
  have pending : controller.call? 0 =
      some (.pending (.opening ⟨"ws://[::1]:1/", 1, 1⟩)) := by
    rw [call?_eq_pending_iff, stages]
    rfl
  have late : controller.Superseded 0 := by
    rw [Superseded, length_starts_of_run ran]
    decide
  obtain ⟨next, taken, closed, returned⟩ :=
    (connections_are_closed_once ran).2 0 _ pending
  exact ⟨controller, next, ran, taken, closed, returned late⟩

end Controller

end WorkspaceStartup
