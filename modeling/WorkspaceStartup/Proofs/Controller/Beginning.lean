import WorkspaceStartup.Proofs.Controller.Act

/-!
# What the beginning of a start does

A beginning withdraws the active attempt, if there is one, and adds a start of
its own, which becomes the active one.  Each part of the state is described by
an equation, so that nobody has to follow the steps of a beginning again.
-/

namespace WorkspaceStartup

/-- A start whose attempt is withdrawn. -/
def Start.withdrawn (start : Start) : Start :=
  { start with attempt := { start.attempt.bare with cancelled := true } }

namespace Controller

/-- The active start. -/
def activeStart? (controller : Controller) : Option Start :=
  controller.active.bind fun start => controller.starts[start]?

/-- The event by which a beginning announces that the active start is
superseded, on behalf of that start. -/
def supersession? (controller : Controller) : Option Entry :=
  controller.active.bind fun start => controller.starts[start]?.map fun entry =>
    ⟨start, controller.clock, .announced
      (.superseded entry.attempt.workspaceId entry.attempt.generation)⟩

/-- The start that a beginning adds. -/
def newStart (controller : Controller) (id : WorkspaceId)
    (environment : String) : Start where
  attempt := .new id (controller.generation + 1) controller.config.budget
  environment := environment
  reported := false
  call := .pending .starting

variable {controller : Controller} {start : Nat} {entry : Start}

theorem eq_of_mem_supersession? {item : Entry}
    (announced : item ∈ controller.supersession?.toList) :
    ∃ start entry, controller.starts[start]? = some entry ∧
      item = ⟨start, controller.clock, .announced
        (.superseded entry.attempt.workspaceId entry.attempt.generation)⟩ := by
  obtain ⟨start, -, isItem⟩ :=
    Option.bind_eq_some_iff.mp (Option.mem_toList.mp announced)
  obtain ⟨entry, found, same⟩ := Option.map_eq_some_iff.mp isItem
  exact ⟨start, entry, found, same.symm⟩

theorem supersede_eq_self (inactive : controller.activeStart? = none) :
    controller.supersede = controller := by
  unfold activeStart? at inactive
  unfold supersede
  split
  · rfl
  · next start active =>
      rw [active, Option.bind_some] at inactive
      rw [inactive]

theorem supersede_eq (active : controller.active = some start)
    (found : controller.starts[start]? = some entry) :
    controller.supersede =
      (controller.putAttempt start
        (entry.attempt.invalidate controller.bus)).announce start
          (.superseded entry.attempt.workspaceId entry.attempt.generation) := by
  simp only [supersede, active, found, invalidate_eq found]

/-- What does not depend on the withdrawn attempt survives a supersession. -/
theorem supersede_keeps {α : Type} (project : Controller → α)
    (keeps : ∀ state : Attempt × Bus Handler, ∀ start event,
      project ((controller.putAttempt start state).announce start event) =
        project controller) :
    project controller.supersede = project controller := by
  cases active : controller.activeStart? with
  | none => rw [supersede_eq_self active]
  | some entry =>
      obtain ⟨start, isActive, found⟩ := Option.bind_eq_some_iff.mp active
      rw [supersede_eq isActive found]
      exact keeps _ start _

@[simp] theorem config_supersede :
    controller.supersede.config = controller.config :=
  supersede_keeps (·.config) fun _ _ _ => rfl

@[simp] theorem generation_supersede :
    controller.supersede.generation = controller.generation :=
  supersede_keeps (·.generation) fun _ _ _ => rfl

@[simp] theorem stamp_supersede :
    controller.supersede.stamp = controller.stamp :=
  supersede_keeps (·.stamp) fun _ _ _ => rfl

@[simp] theorem tracker_supersede :
    controller.supersede.tracker = controller.tracker :=
  supersede_keeps (·.tracker) fun _ _ _ => rfl

@[simp] theorem clock_supersede :
    controller.supersede.clock = controller.clock :=
  supersede_keeps (·.clock) fun _ _ _ => rfl

@[simp] theorem length_starts_supersede :
    controller.supersede.starts.length = controller.starts.length :=
  supersede_keeps (·.starts.length) fun _ _ _ => List.length_modify ..

@[simp] theorem getElem?_supersede (other : Nat) :
    controller.supersede.starts[other]? =
      if controller.active = some other then
        controller.starts[other]?.map Start.withdrawn
      else controller.starts[other]? := by
  cases active : controller.activeStart? with
  | none =>
      rw [supersede_eq_self active]
      split
      · next isActive =>
          rw [activeStart?, isActive, Option.bind_some] at active
          simp [active]
      · rfl
  | some entry =>
      obtain ⟨start, isActive, found⟩ := Option.bind_eq_some_iff.mp active
      rw [supersede_eq isActive found]
      change (controller.changeStart start _).starts[other]? = _
      rw [getElem?_changeStart, isActive]
      by_cases same : start = other
      · subst same
        simp [found, Start.withdrawn, Attempt.invalidate, Attempt.teardown,
          Attempt.bare]
      · simp [same]

@[simp] theorem handler?_supersede (channel : String) :
    controller.supersede.bus.handler? channel =
      if channel ∈ controller.activeChannels then none
      else controller.bus.handler? channel := by
  cases active : controller.activeStart? with
  | none =>
      have noChannels : controller.activeChannels = [] := by
        unfold activeStart? at active
        simp [activeChannels, active]
      simp [supersede_eq_self active, noChannels]
  | some entry =>
      obtain ⟨start, isActive, found⟩ := Option.bind_eq_some_iff.mp active
      have channels : controller.activeChannels = entry.attempt.channels := by
        simp [activeChannels, isActive, found]
      rw [supersede_eq isActive found, channels]
      exact Bus.handler?_foldl_unsubscribe ..

@[simp] theorem history_supersede :
    controller.supersede.bus.history = controller.bus.history := by
  cases active : controller.activeStart? with
  | none => rw [supersede_eq_self active]
  | some entry =>
      obtain ⟨start, isActive, found⟩ := Option.bind_eq_some_iff.mp active
      rw [supersede_eq isActive found]
      exact Bus.history_foldl_unsubscribe ..

@[simp] theorem journal_supersede :
    controller.supersede.journal =
      controller.supersession?.toList ++ controller.journal := by
  cases active : controller.activeStart? with
  | none =>
      have silent : controller.supersession? = none := by
        simpa [activeStart?, supersession?] using active
      simp [supersede_eq_self active, silent]
  | some entry =>
      obtain ⟨start, isActive, found⟩ := Option.bind_eq_some_iff.mp active
      rw [supersede_eq isActive found]
      simp [supersession?, isActive, found, putAttempt, announce, enter,
        changeStart]

/-! ## The beginning -/

/-- The controller that a beginning supersedes: its progress is new already. -/
def renewed (controller : Controller) : Controller :=
  { controller with
    generation := controller.generation + 1
    stamp := controller.generation + 1
    tracker := controller.tracker.reset }

variable (controller) (id : WorkspaceId) (environment : String)

theorem begin_eq :
    controller.begin id environment =
      (({ controller.renewed.supersede with
        starts := controller.renewed.supersede.starts ++
          [controller.newStart id environment]
        active := some controller.starts.length }.announce
          controller.starts.length (.recentUpdated id)).announce
          controller.starts.length (.listRefresh id)).enter
          controller.starts.length (.askedStart id environment) := by
  have sameLength :
      controller.renewed.supersede.starts.length = controller.starts.length :=
    length_starts_supersede
  have sameConfig :
      controller.renewed.supersede.config = controller.config :=
    config_supersede
  rw [← sameLength, newStart, ← sameConfig]
  rfl

@[simp] theorem config_begin :
    (controller.begin id environment).config = controller.config := by
  rw [begin_eq]
  exact config_supersede

@[simp] theorem generation_begin :
    (controller.begin id environment).generation =
      controller.generation + 1 := by
  rw [begin_eq]
  exact generation_supersede

@[simp] theorem stamp_begin :
    (controller.begin id environment).stamp = controller.generation + 1 := by
  rw [begin_eq]
  exact stamp_supersede

@[simp] theorem tracker_begin :
    (controller.begin id environment).tracker = controller.tracker.reset := by
  rw [begin_eq]
  exact tracker_supersede

@[simp] theorem active_begin :
    (controller.begin id environment).active =
      some controller.starts.length := by
  rw [begin_eq]
  rfl

@[simp] theorem clock_begin :
    (controller.begin id environment).clock = controller.clock := by
  rw [begin_eq]
  exact clock_supersede

@[simp] theorem length_starts_begin :
    (controller.begin id environment).starts.length =
      controller.starts.length + 1 := by
  have sameLength :
      controller.renewed.supersede.starts.length = controller.starts.length :=
    length_starts_supersede
  rw [begin_eq]
  simp [announce, enter, sameLength]

theorem getElem?_begin (other : Nat) :
    (controller.begin id environment).starts[other]? =
      if other = controller.starts.length then
        some (controller.newStart id environment)
      else if controller.active = some other then
        controller.starts[other]?.map Start.withdrawn
      else controller.starts[other]? := by
  have sameLength :
      controller.renewed.supersede.starts.length = controller.starts.length :=
    length_starts_supersede
  have before : controller.renewed.supersede.starts[other]? =
      if controller.active = some other then
        controller.starts[other]?.map Start.withdrawn
      else controller.starts[other]? :=
    getElem?_supersede other
  rw [begin_eq]
  change (controller.renewed.supersede.starts ++ _)[other]? = _
  by_cases isNew : other = controller.starts.length
  · simp [isNew, ← sameLength]
  · rw [if_neg isNew, ← before]
    by_cases isOld : other < controller.starts.length
    · rw [List.getElem?_append_left (sameLength ▸ isOld)]
    · have beyond : controller.starts.length + 1 ≤ other := by omega
      rw [List.getElem?_eq_none (by simp [sameLength, beyond]),
        List.getElem?_eq_none (by omega)]

/-- A start is the new one, or it was there before and may be withdrawn now. -/
theorem cases_of_begin {id : WorkspaceId} {environment : String}
    (found : (controller.begin id environment).starts[start]? = some entry) :
    start = controller.starts.length ∧
        entry = controller.newStart id environment ∨
      ∃ before, controller.starts[start]? = some before ∧
        (entry = before ∨ entry = before.withdrawn) := by
  rw [getElem?_begin] at found
  split at found
  · next isNew =>
      cases found
      exact .inl ⟨isNew, rfl⟩
  · split at found
    · obtain ⟨before, foundBefore, rfl⟩ := Option.map_eq_some_iff.mp found
      exact .inr ⟨before, foundBefore, .inr rfl⟩
    · exact .inr ⟨entry, found, .inl rfl⟩

theorem handler?_begin (channel : String) :
    (controller.begin id environment).bus.handler? channel =
      if channel ∈ controller.activeChannels then none
      else controller.bus.handler? channel := by
  rw [begin_eq]
  exact handler?_supersede channel

@[simp] theorem history_begin :
    (controller.begin id environment).bus.history = controller.bus.history := by
  rw [begin_eq]
  exact history_supersede

/-- What a beginning does to the outside, the latest first. -/
theorem journal_begin :
    (controller.begin id environment).journal =
      ⟨controller.starts.length, controller.clock,
        .askedStart id environment⟩ ::
      ⟨controller.starts.length, controller.clock,
        .announced (.listRefresh id)⟩ ::
      ⟨controller.starts.length, controller.clock,
        .announced (.recentUpdated id)⟩ ::
      (controller.supersession?.toList ++ controller.journal) := by
  have sameClock : controller.renewed.supersede.clock = controller.clock :=
    clock_supersede
  have before : controller.renewed.supersede.journal =
      controller.supersession?.toList ++ controller.journal :=
    journal_supersede
  rw [begin_eq]
  simp only [announce, enter, sameClock, before]

end Controller

end WorkspaceStartup
