import WorkspaceStartup.Proofs.Controller.Standing

/-!
# Starts locate their agent in any order

The details of a workspace name the servers of its machines in no order of their
own.  A start that reads them in some order opens the link at the endpoint that
the order finds, or ends without one.  So the order matters to a start exactly
if several servers are marked as the agent's and lead to different endpoints;
runs whose details settle the endpoint are the same in all orders.
-/

namespace WorkspaceStartup

/-- The workspace settles its endpoint, if the move brings its details. -/
def Move.Settles (strategy : EndpointStrategy) : Move → Prop
  | .fetched _ (.ok workspace) => strategy.Settles workspace
  | _ => True

namespace Controller

open Machine

variable {config : Config} {controller : Controller} {start : Nat}
  {attempt : Attempt} {moves : List Move} {move : Move} {orders : Orders}

/-! ## Reading the details in an order -/

theorem stepIn?_eq_step? (settles : move.Settles controller.config.strategy) :
    controller.stepIn? orders move = controller.step? move := by
  cases move with
  | fetched start answer =>
      cases answer with
      | error => rfl
      | ok workspace =>
          have agree := EndpointStrategy.resolveIn?_agrees_iff.mpr settles
          have same := (agree orders Enumeration.byName).trans
            (EndpointStrategy.resolveIn?_byName _ workspace)
          simp only [stepIn?, locate_eq_onFetched same]
          rfl
  | begin | drop | publish | fire | started | watched | linked | woken
  | withdrawn | tick => rfl

/-- A run whose details settle the endpoint is the same in every order. -/
theorem Reachable.runIn?_eq_run? (reachable : Reachable config controller)
    (settled : ∀ move ∈ moves, move.Settles config.strategy) :
    controller.runIn? orders moves = controller.run? moves := by
  induction moves generalizing controller with
  | nil => rfl
  | cons move moves induction =>
      obtain ⟨first, rest⟩ := List.forall_mem_cons.mp settled
      rw [← reachable.config_eq] at first
      rw [runIn?, run?, stepIn?_eq_step? first]
      refine Option.bind_congr fun next taken => ?_
      exact induction (.step move reachable taken) rest

/-! ## What a start does with the details -/

/-- The latest start opens the link at the endpoint that the order finds, or it
fails. -/
theorem stands_locate
    (waits : controller.pending? start = some (attempt, .fetching))
    (owned : controller.owns attempt = true)
    (current : controller.isCurrent attempt = true) (workspace : Workspace) :
    let next := controller.locate orders start attempt workspace
    let requests := controller.requestsOf start
    match controller.config.strategy.resolveIn? orders workspace with
    | some url =>
        next.Stands start
          (.pending (.opening ⟨url, 1, max attempt.budget 1⟩))
          (requests ++ [.opened url])
    | none =>
        next.Stands start (.returned (.error .endpointUnavailable)) requests := by
  intro next requests
  obtain ⟨entry, found, -, -⟩ := pending?_eq_some_iff.mp waits
  have stands : controller.Stands start entry.call requests :=
    ⟨call?_of_found found, rfl⟩
  simp only [next, locate, current, if_true]
  cases controller.config.strategy.resolveIn? orders workspace with
  | some url => exact stands.proceed _
  | none => exact stands.fail owned rfl

/-- The servers that some order finds by a reference are those that carry it, so
the order does not matter exactly if they are the same, and not to the endpoint
exactly if they lead to the same one.  The latest start opens the link at the
endpoint that the order finds, or it ends without one; a superseded start ends
in every order.  Runs whose details settle the endpoint are the same in all
orders. -/
theorem Reachable.order_decides_among_marked_servers
    (reachable : Reachable config controller)
    (waits : controller.pending? start = some (attempt, .fetching))
    (workspace : Workspace) :
    (∀ (machine : Machine) (reference : String),
      (∀ server, (∃ order : machine.Enumeration,
          order.serverByReference? reference = some server) ↔
        machine.Refers reference server) ∧
      ((∀ first second : machine.Enumeration,
          first.serverByReference? reference =
            second.serverByReference? reference) ↔
        ∀ server other, machine.Refers reference server →
          machine.Refers reference other → server = other)) ∧
    ((∀ orders others : Orders,
        config.strategy.resolveIn? orders workspace =
          config.strategy.resolveIn? others workspace) ↔
      config.strategy.Settles workspace) ∧
    (∀ orders : Orders, ∃ next,
      controller.stepIn? orders (.fetched start (.ok workspace)) = some next ∧
      if start + 1 = controller.starts.length then
        match config.strategy.resolveIn? orders workspace with
        | some url =>
            next.Stands start
              (.pending (.opening ⟨url, 1, max attempt.budget 1⟩))
              (controller.requestsOf start ++ [.opened url])
        | none =>
            next.Stands start (.returned (.error .endpointUnavailable))
              (controller.requestsOf start)
      else next = controller.fail start attempt .superseded) ∧
    ∀ moves, (∀ move ∈ moves, Move.Settles config.strategy move) →
      ∀ orders others : Orders,
        controller.runIn? orders moves = controller.runIn? others moves := by
  have numbered := reachable.sound.numbered
  have runs : controller.Runs start attempt := by
    obtain ⟨entry, found, rfl, -⟩ := pending?_eq_some_iff.mp waits
    exact ⟨entry, found, rfl⟩
  refine ⟨?_, EndpointStrategy.resolveIn?_agrees_iff, ?_, ?_⟩
  · intro machine reference
    exact ⟨fun _ => Enumeration.exists_serverByReference?_iff,
      Enumeration.serverByReference?_agrees_iff⟩
  · intro orders
    refine ⟨controller.locate orders start attempt workspace, ?_, ?_⟩
    · simp only [stepIn?, waits]
    · split
      · next latest =>
          rw [← reachable.config_eq]
          exact stands_locate waits ((numbered.owns_iff runs).mpr latest)
            ((numbered.isCurrent_iff runs).mpr latest) workspace
      · next late =>
          rw [locate, if_neg (mt (numbered.isCurrent_iff runs).mp late)]
  · intro moves settled orders others
    rw [reachable.runIn?_eq_run? settled, reachable.runIn?_eq_run? settled]

/-- Two servers are marked as the agent's, and one of them has no URL. -/
def markedTwice : Workspace :=
  let reference := some EndpointStrategy.agentReference
  let servers : Dictionary Server := .ofList
    [("4400/tcp", ⟨reference, none, none, none⟩),
      ("4401/tcp", ⟨reference, none, some "http://a:1", none⟩)]
  ⟨⟨"w"⟩, .running, ⟨"", ""⟩, [], some ⟨some ⟨⟨"dev"⟩, ⟨.empty, servers⟩⟩, []⟩⟩

/-- A workspace runs, and its details are still to come. -/
def startUntilFetching (id : WorkspaceId) : List Move :=
  [.begin id "", .started 0 (.ok ⟨id, []⟩),
    .watched 0 (.ok ⟨id, .running, none⟩)]

/-- The order that meets the server with a URL first lets the link be opened. -/
theorem order_decides_among_two_marked_servers :
    ∃ controller attempt next,
      (Controller.new ⟨1, 0, .agentServer⟩).run? (startUntilFetching ⟨"w"⟩) =
        some controller ∧
      controller.pending? 0 = some (attempt, .fetching) ∧
      controller.stepIn? Enumeration.reversed (.fetched 0 (.ok markedTwice)) =
        some next ∧
      next.requestsOf 0 =
        controller.requestsOf 0 ++ [.opened "ws://a:1/ws"] := by
  have stands : ((Controller.new ⟨1, 0, .agentServer⟩).run?
      (startUntilFetching ⟨"w"⟩)).map stages = some [some .fetching] := by
    decide +kernel
  obtain ⟨controller, ran, stages⟩ := Option.map_eq_some_iff.mp stands
  have fetching : controller.call? 0 = some (.pending .fetching) := by
    rw [call?_eq_pending_iff, stages]
    rfl
  obtain ⟨entry, found, call⟩ := Option.map_eq_some_iff.mp fetching
  have waits : controller.pending? 0 = some (entry.attempt, .fetching) :=
    pending?_eq_some_iff.mpr ⟨entry, found, rfl, call⟩
  have latest : 0 + 1 = controller.starts.length := by
    rw [length_starts_of_run ran]
    decide
  have resolved : EndpointStrategy.agentServer.resolveIn? Enumeration.reversed
      markedTwice = some "ws://a:1/ws" := by
    decide +kernel
  obtain ⟨-, -, located, -⟩ := Reachable.order_decides_among_marked_servers
    (Reachable.new.run ran) waits markedTwice
  obtain ⟨next, taken, ends⟩ := located Enumeration.reversed
  rw [if_pos latest, resolved] at ends
  exact ⟨controller, entry.attempt, next, ran, waits, taken, ends.requests⟩

/-- The start opens the link in one order and finds no endpoint in the other. -/
theorem two_marked_servers_depend_on_the_order :
    let opened (orders : Orders) :=
      ((Controller.new ⟨1, 0, .agentServer⟩).runIn? orders
        (startUntilFetching ⟨"w"⟩ ++ [.fetched 0 (.ok markedTwice)])).map
          fun controller => Entry.openings controller.journal
    (∃ machine, markedTwice.devMachine? = some machine ∧
      (Enumeration.byName machine).serverByReference? "wsagent" ≠
        (Enumeration.reversed machine).serverByReference? "wsagent") ∧
      EndpointStrategy.agentServer.resolveIn? Enumeration.byName markedTwice =
        none ∧
      EndpointStrategy.agentServer.resolveIn? Enumeration.reversed markedTwice =
        some "ws://a:1/ws" ∧
      opened Enumeration.byName = some [] ∧
      opened Enumeration.reversed = some [("ws://a:1/ws", 0)] := by
  refine ⟨⟨_, rfl, ?_⟩, ?_, ?_, ?_, ?_⟩
  all_goals decide +kernel

end Controller

end WorkspaceStartup
