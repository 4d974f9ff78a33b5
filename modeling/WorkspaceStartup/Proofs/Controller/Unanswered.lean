import WorkspaceStartup.Proofs.Controller.Supersession

/-!
# Before the service has answered

Channels are subscribed for a start when the service has answered its request.
Until then no message reaches the start, and nothing is shown of it: all that
can happen to the latest start is that its answer comes or that its caller
gives up.
-/

namespace WorkspaceStartup

namespace Controller

variable {config : Config} {controller next : Controller} {start other : Nat}
  {move : Move} {handler : Handler}

/-! ## Handlers and their starts -/

theorem bus_eq_of_shows (shows : Showing start controller next) :
    next.bus = controller.bus := by
  induction shows with
  | refl => rfl
  | tail _ last induction => exact last.bus_eq.trans induction

theorem Act.knows (act : Act start controller next)
    (known : next.bus.Knows handler) :
    controller.bus.Knows handler ∨ handler.start = start := by
  cases act with
  | shown shows =>
      rw [shows.bus_eq] at known
      exact .inl known
  | noted | tried => exact .inl known
  | tornDown found =>
      rw [teardown_eq found] at known
      exact .inl known.of_foldl_unsubscribe
  | subscribed found _ accepted =>
      obtain ⟨-, rfl⟩ := subscribeChannels?_eq_some_iff.mp accepted
      rcases Attempt.knows_of_subscribeEach known with before | offered
      · exact .inl before
      · obtain ⟨offer, isOffer, rfl⟩ := List.mem_map.mp offered
        exact .inr (start_of_advertised offer isOffer)

theorem knows_of_acts (acts : Acts start controller next)
    (known : next.bus.Knows handler) :
    controller.bus.Knows handler ∨ handler.start = start := by
  induction acts with
  | refl => exact .inl known
  | tail _ last induction =>
      rcases last.knows known with before | own
      · exact induction before
      · exact .inr own

theorem knows_of_begin {id : WorkspaceId} {environment : String}
    (known : (controller.begin id environment).bus.Knows handler) :
    controller.bus.Knows handler := by
  rcases known with remembered | ⟨channel, served⟩
  · rw [history_begin] at remembered
    exact .inl remembered
  · rw [handler?_begin] at served
    split at served
    · cases served
    · exact .inr ⟨channel, served⟩

theorem CallChange.bus_eq (change : CallChange start controller next) :
    next.bus = controller.bus := by
  cases change with
  | waits | leaves | yields | fails | succeeds => rfl

/-- A turn of a start ends after the service has answered. -/
theorem CallChange.answered (change : CallChange start controller next) :
    ¬ next.Unanswered start := by
  intro unanswered
  cases change with
  | waits stage later =>
      cases eq_of_call?_setCall unanswered
      exact later rfl
  | leaves | yields | fails | succeeds => cases eq_of_call?_setCall unanswered

/-- A start that is unanswered after a move was so before. -/
theorem Follows.unanswered (follows : controller.Follows move next)
    (isOld : start < controller.starts.length)
    (unanswered : next.Unanswered start) : controller.Unanswered start := by
  cases follows with
  | begun id environment =>
      have found : controller.call? start =
          some controller.starts[start].call := by
        simp [call?, List.getElem?_eq_getElem isOld]
      have stays := call?_begin found id environment
      rw [Unanswered, found, ← stays]
      exact unanswered
  | passed | unheard => exact unanswered
  | heard _ shows =>
      exact (call?_eq_of_acts (acts_of_shows shows) start).symm.trans unanswered
  | @carried _ actor _ _ _ _ carries =>
      obtain ⟨middle, acts, change⟩ := carries
      by_cases same : start = actor
      · subst same
        exact (change.answered unanswered).elim
      · have stays := congrArg (·.map (·.call)) (change.within.others same)
        exact (stays.trans (call?_eq_of_acts acts start)).symm.trans unanswered

theorem Follows.knows (follows : controller.Follows move next)
    (unanswered : next.Unanswered handler.start)
    (known : next.bus.Knows handler) : controller.bus.Knows handler := by
  cases follows with
  | begun => exact knows_of_begin known
  | passed | unheard => exact known
  | heard _ shows =>
      rw [bus_eq_of_shows shows] at known
      exact known
  | carried _ _ carries =>
      obtain ⟨middle, acts, change⟩ := carries
      rw [change.bus_eq] at known
      rcases knows_of_acts acts known with before | own
      · exact before
      · exact (change.answered (own ▸ unanswered)).elim

theorem Reachable.lt_length_of_knows (reachable : Reachable config controller)
    (known : controller.bus.Knows handler) :
    handler.start < controller.starts.length := by
  rcases known with remembered | ⟨channel, served⟩
  · exact reachable.owned.known handler remembered
  · have latest := reachable.owned.handler_of_latest served
    omega

/-- No message reaches a start before the service has answered. -/
theorem Reachable.answered_of_knows (reachable : Reachable config controller)
    (known : controller.bus.Knows handler) :
    ¬ controller.Unanswered handler.start := by
  induction reachable with
  | new =>
      rcases known with remembered | ⟨channel, served⟩
      · cases remembered
      · cases served
  | step move before taken induction =>
      intro unanswered
      have follows := before.follows taken
      have knownBefore := follows.knows unanswered known
      have isOld := before.lt_length_of_knows knownBefore
      exact induction knownBefore (follows.unanswered isOld unanswered)

/-! ## The start that makes a move -/

/-- A move that neither begins a start nor is made on behalf of one lets time
pass. -/
theorem Follows.eq_of_actor?_eq_none (follows : controller.Follows move next)
    (continues : move.isBeginning = false)
    (nobody : move.actor? controller = none) :
    ∃ clock, next = { controller with clock := clock } := by
  cases follows with
  | begun => cases continues
  | passed | unheard => exact ⟨_, rfl⟩
  | heard actor | carried actor =>
      rw [nobody] at actor
      cases actor

theorem Reachable.actor_lt_length (reachable : Reachable config controller)
    (actor : move.actor? controller = some start)
    (taken : controller.step? move = some next) :
    start < controller.starts.length := by
  cases move with
  | begin | tick => cases actor
  | publish channel body =>
      obtain ⟨handler, served, rfl⟩ := Option.map_eq_some_iff.mp actor
      exact reachable.lt_length_of_knows (.inr ⟨channel, served⟩)
  | fire position body =>
      obtain ⟨handler, subscribed, rfl⟩ := Option.map_eq_some_iff.mp actor
      exact reachable.lt_length_of_knows
        (.inl (List.mem_of_getElem? subscribed))
  | drop | started | watched | fetched | linked | woken | withdrawn =>
      cases actor
      refine lt_length_of_pending? ?_
      intro missing
      simp [step?, missing] at taken

/-- Only the latest start makes a move that is noticed. -/
theorem Reachable.silent_of_earlier (reachable : Reachable config controller)
    (actor : move.actor? controller = some other)
    (taken : controller.step? move = some next)
    (earlier : other + 1 ≠ controller.starts.length) :
    Silent controller next := by
  have inRange := reachable.actor_lt_length actor taken
  have late : controller.Superseded other := by
    rw [Superseded]
    omega
  exact (reachable.follows taken).silent reachable.sound reachable.owned actor
    late

/-- The latest start takes the answer of the service, or its caller gives up. -/
theorem Reachable.answered_or_dropped (reachable : Reachable config controller)
    (latest : start + 1 = controller.starts.length)
    (unanswered : controller.Unanswered start)
    (actor : move.actor? controller = some start)
    (taken : controller.step? move = some next) :
    next = controller.setCall start .dropped ∨
      ∃ entry answer, controller.starts[start]? = some entry ∧
        entry.call = .pending .starting ∧
        next = controller.onStarted start entry.attempt answer := by
  obtain ⟨entry, found, call⟩ := Option.map_eq_some_iff.mp unanswered
  have pending : controller.pending? start = some (entry.attempt, .starting) :=
    pending?_eq_some_iff.mpr ⟨entry, found, rfl, call⟩
  cases move with
  | begin | tick => cases actor
  | publish channel body =>
      obtain ⟨handler, served, rfl⟩ := Option.map_eq_some_iff.mp actor
      exact (reachable.answered_of_knows (.inr ⟨channel, served⟩)
        unanswered).elim
  | fire position body =>
      obtain ⟨handler, subscribed, rfl⟩ := Option.map_eq_some_iff.mp actor
      exact (reachable.answered_of_knows
        (.inl (List.mem_of_getElem? subscribed)) unanswered).elim
  | drop =>
      cases actor
      simp only [step?, pending] at taken
      cases taken
      exact .inl rfl
  | started _ answer =>
      cases actor
      simp only [step?, pending] at taken
      cases taken
      exact .inr ⟨entry, answer, found, call, rfl⟩
  | watched | fetched | linked | woken =>
      cases actor
      simp [step?, pending] at taken
  | withdrawn =>
      cases actor
      simp only [step?, pending] at taken
      split at taken
      · next cancelled =>
          have late := (reachable.sound.numbered.attempt found).2.mp cancelled
          omega
      · cases taken

theorem Reachable.tracker_of_unanswered
    (reachable : Reachable config controller)
    (latest : start + 1 = controller.starts.length)
    (unanswered : controller.Unanswered start) :
    controller.tracker = .startup := by
  induction reachable with
  | new => cases latest
  | @step controller next move before taken induction =>
      have follows := before.follows taken
      cases actor : move.actor? controller with
      | none =>
          cases follows with
          | begun =>
              rw [tracker_begin]
              exact Tracker.reset_eq_startup before.sound.tracker.labels
          | passed | unheard => exact induction latest unanswered
          | heard isActor | carried isActor =>
              rw [actor] at isActor
              cases isActor
      | some other =>
          have within := follows.within actor
          rw [within.length] at latest
          have isOld : start < controller.starts.length := by omega
          have unansweredBefore := follows.unanswered isOld unanswered
          rw [← induction latest unansweredBefore]
          by_cases same : other = start
          · -- The answer, or giving up, would be the end of the waiting.
            subst same
            rcases before.answered_or_dropped latest unansweredBefore actor
              taken with rfl | ⟨entry, answer, found, pending, rfl⟩
            · cases eq_of_call?_setCall unanswered
            · obtain ⟨middle, -, change⟩ :=
                carries_onStarted found pending before.sound.tracker answer
              exact (change.answered unanswered).elim
          · exact (before.silent_of_earlier actor taken (by omega)).tracker

end Controller

end WorkspaceStartup
