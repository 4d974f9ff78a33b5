import WorkspaceStartup.Proofs.Controller.Return

/-!
# Who owns the bus

The channels on the bus are those of the latest start, served by its own
handlers.  Older starts hold no channel, and neither does a start whose call
has returned; it never subscribes again.
-/

namespace WorkspaceStartup

namespace Controller

variable {config : Config} {controller next : Controller} {start : Nat}
  {moves : List Move} {move : Move}

/-- The bus serves the latest start, and no other start holds a channel. -/
structure Owned (controller : Controller) : Prop where
  latest : ∀ {start channels}, controller.channels? start = some channels →
    start + 1 = controller.starts.length →
    controller.bus.Serves channels fun handler => handler.start = start
  older : ∀ {start channels}, controller.channels? start = some channels →
    start + 1 < controller.starts.length → channels = []
  ended : ∀ {start result}, controller.call? start = some (.returned result) →
    controller.channels? start = some []
  unused : controller.starts.length = 0 →
    ∀ channel, controller.bus.handler? channel = none
  known : ∀ handler ∈ controller.bus.history,
    handler.start < controller.starts.length

theorem start_of_advertised {id : WorkspaceId} {links : List Link} :
    ∀ offer ∈ advertised start id links, offer.2.start = start := by
  simp [advertised, or_imp, forall_and]

theorem history_of_advertised (start : Nat) (id : WorkspaceId)
    (attempt : Attempt) (bus : Bus Handler) (links : List Link) :
    ∃ added, (attempt.subscribeEach bus (advertised start id links)).2.history =
        bus.history ++ added ∧
      ∀ handler ∈ added, handler.start = start := by
  obtain ⟨added, history, offered⟩ :=
    attempt.history_subscribeEach bus (advertised start id links)
  refine ⟨added, history, ?_⟩
  intro handler isAdded
  obtain ⟨offer, isOffer, rfl⟩ := List.mem_map.mp (offered handler isAdded)
  exact start_of_advertised offer isOffer

namespace Owned

theorem new (config : Config) : (Controller.new config).Owned where
  latest := by simp [channels?, Controller.new]
  older := by simp [channels?, Controller.new]
  ended := by simp [call?, Controller.new]
  unused := fun _ _ => rfl
  known := by simp [Controller.new, Bus.empty]

/-- A change that touches neither the bus nor the channels of a start. -/
theorem of_same (owned : controller.Owned) (bus : next.bus = controller.bus)
    (length : next.starts.length = controller.starts.length)
    (channels : ∀ start, next.channels? start = controller.channels? start)
    (ended : ∀ {start result}, next.call? start = some (.returned result) →
      next.channels? start = some []) : next.Owned where
  latest := by
    intro start held found latest
    rw [channels] at found
    rw [length] at latest
    exact bus ▸ owned.latest found latest
  older := by
    intro start held found older
    rw [channels] at found
    rw [length] at older
    exact owned.older found older
  ended := ended
  unused := by
    rw [length, bus]
    exact owned.unused
  known := by
    rw [length, bus]
    exact owned.known

/-- A beginning gives up every channel that was on the bus. -/
theorem handler?_begin (owned : controller.Owned)
    (numbered : controller.Numbered) (id : WorkspaceId) (environment : String)
    (channel : String) :
    (controller.begin id environment).bus.handler? channel = none := by
  rw [Controller.handler?_begin]
  split
  · rfl
  · next free =>
      -- What is on the bus belongs to the latest start, which is the active one.
      rcases numbered.latest_cases with
        none | ⟨start, entry, latest, active, found⟩
      · exact owned.unused none channel
      · have serves := owned.latest (channels?_of_found found) latest
        have notHeld : channel ∉ entry.attempt.channels := by
          simpa [activeChannels, active, found] using free
        simpa [serves.held] using notHeld

theorem begin (owned : controller.Owned) (numbered : controller.Numbered)
    (id : WorkspaceId) (environment : String) :
    (controller.begin id environment).Owned where
  latest := by
    intro start channels held latest
    rw [length_starts_begin] at latest
    have isNew : start = controller.starts.length := by omega
    rw [channels?, getElem?_begin, if_pos isNew] at held
    cases held
    exact Bus.serves_nothing (owned.handler?_begin numbered id environment)
  older := by
    intro start channels held older
    rw [length_starts_begin] at older
    have isOld : start ≠ controller.starts.length := by omega
    rw [channels?, getElem?_begin, if_neg isOld] at held
    split at held
    · obtain ⟨entry, found, rfl⟩ := Option.map_eq_some_iff.mp held
      obtain ⟨before, -, rfl⟩ := Option.map_eq_some_iff.mp found
      rfl
    · next inactive =>
        have notLatest : start + 1 ≠ controller.starts.length :=
          fun latest => inactive ((numbered.active start).mpr latest)
        exact owned.older held (by omega)
  ended := by
    intro start result returned
    rw [call?, getElem?_begin] at returned
    rw [channels?, getElem?_begin]
    split at returned
    · simp [newStart] at returned
    · next isOld =>
        rw [if_neg isOld]
        split at returned
        · next isActive =>
            obtain ⟨entry, found, -⟩ := Option.map_eq_some_iff.mp returned
            obtain ⟨before, foundBefore, -⟩ := Option.map_eq_some_iff.mp found
            simp [isActive, foundBefore, Start.withdrawn, Attempt.bare]
        · next inactive =>
            rw [if_neg inactive]
            exact owned.ended returned
  unused := by simp
  known := by
    intro handler member
    rw [history_begin] at member
    rw [length_starts_begin]
    exact Nat.lt_succ_of_lt (owned.known handler member)

/-- The latest start has changed its channels together with the bus. -/
theorem putAttempt {state : Attempt × Bus Handler} {entry : Start}
    (owned : controller.Owned) (found : controller.starts[start]? = some entry)
    (latest : start + 1 = controller.starts.length →
      state.2.Serves state.1.channels fun handler => handler.start = start)
    (older : start + 1 < controller.starts.length →
      state.1.channels = [] ∧
        ∀ channel, state.2.handler? channel = controller.bus.handler? channel)
    (ended : ∀ {result}, entry.call = .returned result → state.1.channels = [])
    (known : ∀ handler ∈ state.2.history,
      handler.start < controller.starts.length) :
    (controller.putAttempt start state).Owned where
  latest := by
    intro other channels held isLatest
    rw [length_starts_putAttempt] at isLatest
    rw [channels?_putAttempt] at held
    split at held
    · next same =>
        subst same
        simp only [found, Option.map_some, Option.some.injEq] at held
        exact held ▸ latest isLatest
    · next different =>
        have inRange := lt_length_of_found found
        obtain ⟨-, untouched⟩ := older (by omega)
        have serves := owned.latest held isLatest
        exact serves.of_handler? untouched
  older := by
    intro other channels held isOlder
    rw [length_starts_putAttempt] at isOlder
    rw [channels?_putAttempt] at held
    split at held
    · next same =>
        subst same
        simp only [found, Option.map_some, Option.some.injEq] at held
        exact held ▸ (older isOlder).1
    · exact owned.older held isOlder
  ended := by
    intro other result returned
    rw [call?_putAttempt] at returned
    rw [channels?_putAttempt]
    split
    · next same =>
        subst same
        obtain ⟨changed, foundChanged, isReturned⟩ :=
          Option.map_eq_some_iff.mp returned
        rw [found] at foundChanged
        cases foundChanged
        simp [found, ended isReturned]
    · exact owned.ended returned
  unused := by
    intro none
    have inRange := lt_length_of_found found
    rw [length_starts_putAttempt] at none
    omega
  known := by
    rw [length_starts_putAttempt]
    exact known

theorem act (owned : controller.Owned) (numbered : controller.Numbered)
    (act : Act start controller next) : next.Owned := by
  have within := act.within
  cases act with
  | shown shows =>
      refine owned.of_same shows.bus_eq within.length shows.channels?_eq ?_
      intro start result returned
      rw [(Act.shown shows).call?_eq] at returned
      rw [shows.channels?_eq]
      exact owned.ended returned
  | noted | tried => exact owned.of_same rfl rfl (fun _ => rfl) owned.ended
  | tornDown found =>
      -- The latest start empties the bus; an older one has nothing to give up.
      rw [teardown_eq found]
      refine owned.putAttempt found ?_ ?_ (fun _ => rfl) ?_
      · intro isLatest
        have serves := owned.latest (channels?_of_found found) isLatest
        exact Bus.serves_nothing serves.handler?_foldl_unsubscribe
      · intro isOlder
        have empty := owned.older (channels?_of_found found) isOlder
        exact ⟨rfl, fun channel => by simp [Attempt.teardown, empty]⟩
      · intro handler member
        exact owned.known handler (by simpa [Attempt.teardown] using member)
  | subscribed found pending accepted =>
      obtain ⟨current, rfl⟩ := subscribeChannels?_eq_some_iff.mp accepted
      have isLatest := (numbered.isCurrent_iff ⟨_, found, rfl⟩).mp current
      refine owned.putAttempt found ?_ (by omega) ?_ ?_
      · intro _
        exact Attempt.serves_subscribeEach
          (owned.latest (channels?_of_found found) isLatest) start_of_advertised
      · intro result returned
        rw [pending] at returned
        cases returned
      · intro handler member
        obtain ⟨added, history, own⟩ := history_of_advertised ..
        rw [history] at member
        rcases List.mem_append.mp member with before | isAdded
        · exact owned.known handler before
        · rw [own handler isAdded]
          exact lt_length_of_found found

theorem setCall {call : Call} (owned : controller.Owned)
    (ended : ∀ {result}, call = .returned result →
      controller.channels? start = some []) :
    (controller.setCall start call).Owned := by
  refine owned.of_same rfl (List.length_modify ..) (channels?_setCall call) ?_
  intro other result returned
  rw [call?_setCall] at returned
  rw [channels?_setCall]
  split at returned
  · next same =>
      obtain ⟨entry, -, isReturned⟩ := Option.map_eq_some_iff.mp returned
      exact same ▸ ended isReturned
  · exact owned.ended returned

theorem enter (owned : controller.Owned) (deed : Deed) :
    (controller.enter start deed).Owned :=
  owned.of_same rfl rfl (fun _ => rfl) owned.ended

theorem change (owned : controller.Owned)
    (change : CallChange start controller next) : next.Owned := by
  cases change with
  | waits stage => exact owned.setCall nofun
  | leaves => exact owned.setCall nofun
  | yields _ _ empty => exact owned.setCall fun _ => empty
  | fails _ _ _ empty => exact (owned.enter _).setCall fun _ => empty
  | succeeds _ _ _ empty =>
      exact ((owned.enter _).enter _).setCall fun _ => empty

end Owned

theorem Reachable.owned (reachable : Reachable config controller) :
    controller.Owned := by
  refine reachable.invariant Owned (.new config) ?_ ?_ ?_ ?_
  · intro controller id environment sound owned
    exact owned.begin sound.numbered id environment
  · intro controller milliseconds owned
    exact owned.of_same rfl rfl (fun _ => rfl) owned.ended
  · intro start controller next sound act owned
    exact owned.act sound.numbered act
  · intro start stage controller next _ _ change owned
    exact owned.change change

/-! ## Subscribing once -/

/-- The handlers that were ever subscribed on behalf of a start. -/
def subscriptions (controller : Controller) (start : Nat) : List Handler :=
  controller.bus.history.filter (·.start == start)

/-- Only a start whose request was just answered subscribes. -/
theorem Act.subscriptions_eq (act : Act start controller next) {other : Nat}
    (idle : controller.call? other ≠ some (.pending .starting)) :
    next.subscriptions other = controller.subscriptions other := by
  cases act with
  | shown shows => rw [subscriptions, shows.bus_eq, subscriptions]
  | noted | tried => rfl
  | tornDown found =>
      rw [teardown_eq found]
      exact congrArg (List.filter _) (Bus.history_foldl_unsubscribe ..)
  | @subscribed entry links _ found pending accepted =>
      obtain ⟨-, rfl⟩ := subscribeChannels?_eq_some_iff.mp accepted
      obtain ⟨added, history, own⟩ := history_of_advertised start
        entry.attempt.workspaceId entry.attempt controller.bus links
      have different : start ≠ other := by
        rintro rfl
        exact idle (by simp [call?, found, pending])
      have notOthers : added.filter (·.start == other) = [] := by
        rw [List.filter_eq_nil_iff]
        intro handler isAdded
        simp [own handler isAdded, different]
      refine (congrArg (List.filter _) history).trans ?_
      rw [List.filter_append, notOthers, List.append_nil, subscriptions]

theorem Follows.subscriptions_eq (follows : controller.Follows move next)
    (idle : controller.call? start ≠ some (.pending .starting)) :
    next.subscriptions start = controller.subscriptions start := by
  have acts {actor : Nat} {next : Controller}
      (acts : Acts actor controller next) :
      next.subscriptions start = controller.subscriptions start := by
    induction acts with
    | refl => rfl
    | tail earlier last induction =>
        refine (last.subscriptions_eq ?_).trans induction
        rwa [call?_eq_of_acts earlier]
  cases follows with
  | begun => simp [subscriptions]
  | passed | unheard => rfl
  | heard _ shows => exact acts (acts_of_shows shows)
  | carried _ _ carries =>
      obtain ⟨middle, earlier, change⟩ := carries
      have same : next.bus = middle.bus := by
        cases change with
        | waits | leaves | yields | fails | succeeds => rfl
      rw [subscriptions, same]
      exact acts earlier

/-- A start whose call has returned holds no channel and never subscribes
again. -/
theorem Reachable.returned_holds_nothing
    (reachable : Reachable config controller)
    {result : Except StartFailure Unit}
    (returned : controller.call? start = some (.returned result))
    (ran : controller.run? moves = some next) :
    next.channels? start = some [] ∧
      next.subscriptions start = controller.subscriptions start := by
  have kept : next.call? start = some (.returned result) ∧
      next.subscriptions start = controller.subscriptions start := by
    refine reachable.run_induction
      (fun later => later.call? start = some (.returned result) ∧
        later.subscriptions start = controller.subscriptions start) ?_ ran ?_
    · rintro between after move - follows ⟨ended, same⟩
      refine ⟨follows.call?_of_ended ended nofun, ?_⟩
      exact (follows.subscriptions_eq (by simp [ended])).trans same
    · exact ⟨returned, rfl⟩
  exact ⟨(reachable.run ran).owned.ended kept.1, kept.2⟩

/-! ## Who owns the bus -/

theorem Owned.mem_channels_iff (owned : controller.Owned) (channel : String) :
    channel ∈ controller.bus.channels ↔
      ∃ entry, controller.starts.getLast? = some entry ∧
        channel ∈ entry.attempt.channels := by
  rw [Bus.mem_channels_iff, List.getLast?_eq_getElem?]
  rcases controller.starts.eq_nil_or_concat with
    nothing | ⟨earlier, entry, split⟩
  · have none := owned.unused (by simp [nothing]) channel
    simp [none, nothing]
  · have found : controller.starts[controller.starts.length - 1]? =
        some entry := by simp [split]
    have serves := owned.latest (channels?_of_found found) (by simp [split])
    rw [found]
    simpa using (serves.held channel).symm

theorem Owned.handler_of_latest (owned : controller.Owned) {channel : String}
    {handler : Handler}
    (served : controller.bus.handler? channel = some handler) :
    handler.start + 1 = controller.starts.length := by
  rcases controller.starts.eq_nil_or_concat with
    nothing | ⟨earlier, entry, split⟩
  · have none := owned.unused (by simp [nothing]) channel
    rw [none] at served
    cases served
  · have found : controller.starts[earlier.length]? = some entry := by
      simp [split]
    have serves := owned.latest (channels?_of_found found) (by simp [split])
    simp [serves.owned served, split]

theorem Owned.nodup_of_found (owned : controller.Owned) {entry : Start}
    (found : controller.starts[start]? = some entry) :
    entry.attempt.channels.Nodup ∧ "" ∉ entry.attempt.channels := by
  have held := channels?_of_found found
  have inRange := lt_length_of_found found
  by_cases isLatest : start + 1 = controller.starts.length
  · have serves := owned.latest held isLatest
    exact ⟨serves.nodup, serves.named⟩
  · simp [owned.older held (by omega)]

/-- The bus is empty once every call has returned. -/
theorem Owned.channels_eq_nil (owned : controller.Owned)
    (ended : ∀ entry ∈ controller.starts,
      ∃ result, entry.call = .returned result) :
    controller.bus.channels = [] := by
  rw [List.eq_nil_iff_forall_not_mem]
  intro channel subscribed
  obtain ⟨entry, isLast, held⟩ := (owned.mem_channels_iff channel).mp subscribed
  obtain ⟨result, returned⟩ := ended entry (List.mem_of_getLast? isLast)
  rw [List.getLast?_eq_getElem?] at isLast
  have empty := owned.ended (by rw [call?, isLast, Option.map_some, returned])
  rw [channels?_of_found isLast, Option.some.injEq] at empty
  rw [empty] at held
  exact List.not_mem_nil held

/-- In every reachable state the latest start alone holds channels and serves
them, and a start whose call has returned holds none and never subscribes
again. -/
theorem Reachable.bus_of_latest (reachable : Reachable config controller) :
    (∀ channel, channel ∈ controller.bus.channels ↔
      ∃ entry, controller.starts.getLast? = some entry ∧
        channel ∈ entry.attempt.channels) ∧
    (∀ channel ∈ controller.bus.channels,
      ∃ handler, controller.bus.handler? channel = some handler ∧
        handler.start + 1 = controller.starts.length) ∧
    (∀ entry ∈ controller.starts,
      entry.attempt.channels.Nodup ∧ "" ∉ entry.attempt.channels) ∧
    (∀ start entry, controller.starts[start]? = some entry →
      start + 1 < controller.starts.length → entry.attempt.channels = []) ∧
    (∀ start entry result, controller.starts[start]? = some entry →
      entry.call = .returned result →
      entry.attempt.channels = [] ∧
      ∀ moves later, controller.run? moves = some later →
        later.channels? start = some [] ∧
          later.subscriptions start = controller.subscriptions start) ∧
    ((∀ entry ∈ controller.starts, ∃ result, entry.call = .returned result) →
      controller.bus.channels = []) := by
  have owned := reachable.owned
  refine ⟨owned.mem_channels_iff, ?_, ?_, ?_, ?_, owned.channels_eq_nil⟩
  · intro channel subscribed
    rw [Bus.mem_channels_iff, Option.isSome_iff_exists] at subscribed
    obtain ⟨handler, served⟩ := subscribed
    exact ⟨handler, served, owned.handler_of_latest served⟩
  · intro entry member
    obtain ⟨start, found⟩ := List.mem_iff_getElem?.mp member
    exact owned.nodup_of_found found
  · intro start entry found isOlder
    exact owned.older (channels?_of_found found) isOlder
  · intro start entry result found returned
    have ended : controller.call? start = some (.returned result) := by
      simp [call?, found, returned]
    constructor
    · simpa [channels?_of_found found] using owned.ended ended
    · intro moves later ran
      exact reachable.returned_holds_nothing ended ran

/-- A workspace is started again after its channels were subscribed, and the
first start notices that it is superseded when the second has subscribed. -/
def restart (id : WorkspaceId) : List Move :=
  [.begin id "", .started 0 (.ok ⟨id, []⟩), .begin id "",
    .started 1 (.ok ⟨id, []⟩), .withdrawn 0]

theorem bus_of_latest_after_restart :
    ∃ controller,
      (Controller.new ⟨1, 0, .agentServer⟩).run? (restart ⟨"w"⟩) =
        some controller ∧
      controller.call? 0 = some (.returned (.error .superseded)) ∧
      controller.channels? 0 = some [] ∧
      controller.bus.channels = [agentChannel ⟨"w"⟩] ∧
      ∀ channel ∈ controller.bus.channels,
        ∃ handler, controller.bus.handler? channel = some handler ∧
          handler.start + 1 = 2 := by
  have ran : (Controller.new ⟨1, 0, .agentServer⟩).run? (restart ⟨"w"⟩) =
      some _ := rfl
  have owned := Reachable.bus_of_latest (Reachable.new.run ran)
  exact ⟨_, ran, rfl, congrArg some (owned.2.2.2.1 0 _ rfl (by decide)),
    by decide +kernel, owned.2.1⟩

end Controller

end WorkspaceStartup
