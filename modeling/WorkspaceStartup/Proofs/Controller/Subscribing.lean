import WorkspaceStartup.Proofs.Controller.Unanswered

/-!
# Subscribing what the service advertises

A start subscribes the channels that the service advertises together with the
channel of the agent.  Whatever is advertised, it ends up with the distinct
names in their order, each served in the first role that uses it: a name that
recurs is refused, and the others are subscribed all the same.
-/

namespace WorkspaceStartup

namespace Link

/-- The first link of the relation names the channel: its first parameter has
the name for its default value, and the name is not empty. -/
def Advertises (links : List Link) (relation channel : String) : Prop :=
  ∃ earlier link later parameter others,
    links = earlier ++ link :: later ∧
    (∀ other ∈ earlier, other.relation ≠ relation) ∧
    link.relation = relation ∧
    link.parameters = parameter :: others ∧
    parameter.defaultValue = some channel ∧ channel ≠ ""

theorem channel?_eq_some_iff {link : Link} {channel : String} :
    link.channel? = some channel ↔ ∃ parameter others,
      link.parameters = parameter :: others ∧
      parameter.defaultValue = some channel ∧ channel ≠ "" := by
  cases parameters : link.parameters with
  | nil => simp [channel?, parameters]
  | cons parameter others =>
      simp [channel?, parameters, Option.filter_eq_some_iff]

theorem channelFor?_eq_some_iff {links : List Link}
    {relation channel : String} :
    channelFor? links relation = some channel ↔
      Advertises links relation channel := by
  simp only [channelFor?, Option.bind_eq_some_iff, find?,
    List.find?_eq_some_iff_append, beq_iff_eq, Bool.not_eq_true', beq_eq_false_iff_ne,
    channel?_eq_some_iff]
  constructor
  · rintro ⟨link, ⟨related, earlier, later, split, others⟩, parameter, rest, named⟩
    exact ⟨earlier, link, later, parameter, rest, split, others, related, named⟩
  · rintro ⟨earlier, link, later, parameter, rest, split, others, related, named⟩
    exact ⟨link, ⟨related, earlier, later, split, others⟩, parameter, rest, named⟩

end Link

namespace Attempt

variable {Handler : Type} {attempt : Attempt} {bus : Bus Handler}
  {offers : List (String × Handler)}

theorem subscribe_of_held (bus : Bus Handler) {channel : String}
    (handler : Handler) (held : channel ∈ attempt.channels) :
    ∃ failure, attempt.subscribe bus channel handler = .error failure := by
  unfold subscribe
  split
  · exact ⟨_, rfl⟩
  · simp [holds, held]

/-- Subscribing adds the names that are not held yet, each where it is offered
first. -/
theorem channels_subscribeEach (named : ∀ offer ∈ offers, offer.1 ≠ "") :
    (attempt.subscribeEach bus offers).1.channels =
      attempt.channels ++
        ((offers.map (·.1)).removeAll attempt.channels).eraseDups := by
  induction offers generalizing attempt bus with
  | nil => simp [subscribeEach, List.removeAll]
  | cons offer others induction =>
      obtain ⟨notBlank, othersNamed⟩ := List.forall_mem_cons.mp named
      unfold subscribeEach
      by_cases held : offer.1 ∈ attempt.channels
      · obtain ⟨failure, refused⟩ := subscribe_of_held bus offer.2 held
        simp only [refused]
        rw [induction othersNamed]
        simp [List.removeAll, held]
      · have accepted : attempt.subscribe bus offer.1 offer.2 = .ok _ :=
          subscribe_eq_ok_iff.mpr ⟨notBlank, held, rfl⟩
        simp only [accepted]
        have kept (names : List String) :
            (offer.1 :: names).removeAll attempt.channels =
              offer.1 :: names.removeAll attempt.channels := by
          simp [List.removeAll, held]
        have dropped (names : List String) :
            names.removeAll (attempt.channels ++ [offer.1]) =
              (names.removeAll attempt.channels).filter
                fun name => !name == offer.1 := by
          simp [List.removeAll, List.filter_filter, Bool.and_comm, beq_eq_decide]
        rw [induction othersNamed, List.map_cons, kept, dropped,
          List.eraseDups_cons, List.append_assoc]
        rfl

/-- Of several offers of a name the first is served, unless the name is held. -/
theorem handler?_subscribeEach (named : ∀ offer ∈ offers, offer.1 ≠ "")
    (channel : String) :
    (attempt.subscribeEach bus offers).2.handler? channel =
      if channel ∈ attempt.channels then bus.handler? channel
      else (lookUp? channel offers).or (bus.handler? channel) := by
  induction offers generalizing attempt bus with
  | nil => simp [subscribeEach]
  | cons offer others induction =>
      obtain ⟨notBlank, othersNamed⟩ := List.forall_mem_cons.mp named
      unfold subscribeEach
      by_cases held : offer.1 ∈ attempt.channels
      · obtain ⟨failure, refused⟩ := subscribe_of_held bus offer.2 held
        simp only [refused]
        rw [induction othersNamed]
        split
        · rfl
        · next notHeld =>
            have different : offer.1 ≠ channel := fun same =>
              notHeld (same ▸ held)
            rw [lookUp?_cons, if_neg different]
      · have accepted : attempt.subscribe bus offer.1 offer.2 = .ok _ :=
          subscribe_eq_ok_iff.mpr ⟨notBlank, held, rfl⟩
        simp only [accepted]
        rw [induction othersNamed, Bus.handler?_subscribe]
        by_cases same : channel = offer.1
        · subst same
          simp [held]
        · simp [same, Ne.symm same]

end Attempt

namespace Controller

variable {config : Config} {controller next : Controller} {start : Nat}
  {entry : Start}

theorem agentChannel_ne_empty (id : WorkspaceId) : agentChannel id ≠ "" := by
  simp [agentChannel]

theorem named_of_advertised {start : Nat} {id : WorkspaceId}
    {links : List Link} : ∀ offer ∈ advertised start id links, offer.1 ≠ "" := by
  have named {relation channel : String}
      (found : Link.channelFor? links relation = some channel) :
      channel ≠ "" := by
    obtain ⟨-, -, -, -, -, -, -, -, -, -, named⟩ :=
      Link.channelFor?_eq_some_iff.mp found
    exact named
  intro offer member
  simp only [advertised, List.mem_append, Option.mem_toList,
    Option.map_eq_some_iff, List.mem_singleton] at member
  rcases member with (⟨channel, found, rfl⟩ | rfl) | ⟨channel, found, rfl⟩
  · exact named found
  · exact agentChannel_ne_empty id
  · exact named found

theorem names_advertised (start : Nat) (id : WorkspaceId) (links : List Link) :
    (advertised start id links).map (·.1) =
      (Link.channelFor? links Relation.statusChannel).toList ++
        [agentChannel id] ++
        (Link.channelFor? links Relation.outputChannel).toList := by
  simp [advertised, Option.toList_map, Function.comp_def]

/-- A channel is offered in the first of the three roles that uses its name. -/
theorem lookUp?_advertised {start : Nat} {id : WorkspaceId} {links : List Link}
    {channel : String}
    (offered : channel ∈ (advertised start id links).map (·.1)) :
    lookUp? channel (advertised start id links) = some ⟨start,
      if Link.channelFor? links Relation.statusChannel = some channel then
        .status
      else if channel = agentChannel id then .agent
      else .output⟩ := by
  rw [names_advertised] at offered
  unfold advertised
  generalize Link.channelFor? links Relation.statusChannel = status at offered ⊢
  generalize Link.channelFor? links Relation.outputChannel = output at offered ⊢
  by_cases inStatus : status = some channel
  · simp [inStatus]
  · have skipped : lookUp? channel (status.map fun channel =>
        (channel, Handler.mk start .status)).toList = none := by
      rw [lookUp?_eq_none_iff]
      simpa [Function.comp_def, Option.toList_map] using inStatus
    rw [List.append_assoc, lookUp?_append, skipped, if_neg inStatus]
    by_cases ofAgent : channel = agentChannel id
    · simp [ofAgent]
    · have inOutput : output = some channel := by
        simpa [inStatus, ofAgent] using offered
      simp [ofAgent, Ne.symm ofAgent, inOutput]

/-! ## When the service has answered -/

/-- A start holds no channel before the service has answered. -/
theorem Reachable.holds_nothing_of_unanswered
    (reachable : Reachable config controller)
    (found : controller.starts[start]? = some entry)
    (unanswered : controller.Unanswered start) : entry.attempt.channels = [] := by
  have held := channels?_of_found found
  have inRange := lt_length_of_found found
  by_cases isLatest : start + 1 = controller.starts.length
  · have serves := reachable.owned.latest held isLatest
    rw [List.eq_nil_iff_forall_not_mem]
    intro channel member
    obtain ⟨handler, served⟩ :=
      Option.isSome_iff_exists.mp ((serves.held channel).mp member)
    have own : handler.start = start := serves.owned served
    exact reachable.answered_of_knows (.inr ⟨channel, served⟩) (own ▸ unanswered)
  · exact reachable.owned.older held (by omega)

/-- The latest start takes over the bus for what is advertised. -/
theorem subscribeChannels?_of_current {attempt : Attempt} (links : List Link)
    (found : controller.starts[start]? = some entry)
    (current : controller.isCurrent attempt = true)
    (bare : attempt.channels = []) :
    ∃ next, controller.subscribeChannels? start attempt links = some next ∧
      next.channels? start = some ((advertised start attempt.workspaceId
        links).map (·.1)).eraseDups ∧
      ∀ channel, next.bus.handler? channel =
        (lookUp? channel (advertised start attempt.workspaceId links)).or
          (controller.bus.handler? channel) := by
  refine ⟨_, subscribeChannels?_eq_some_iff.mpr ⟨current, rfl⟩, ?_, ?_⟩
  · rw [channels?_putAttempt, if_pos rfl, found, Option.map_some,
      Attempt.channels_subscribeEach named_of_advertised, bare]
    simp [List.removeAll, List.filter_eq_self.mpr]
  · intro channel
    change (attempt.subscribeEach _ _).2.handler? channel = _
    rw [Attempt.handler?_subscribeEach named_of_advertised, bare,
      if_neg List.not_mem_nil]

/-- A superseded start learns so from the answer, and the bus does not. -/
theorem Owned.onStarted_of_superseded (owned : controller.Owned)
    (found : controller.starts[start]? = some entry)
    (late : start + 1 < controller.starts.length) {result : StartResult}
    (refused : controller.subscribeChannels? start entry.attempt result.links =
      none) :
    let next := controller.onStarted start entry.attempt (.ok result)
    next.call? start = some (.returned (.error .superseded)) ∧
      next.bus = controller.bus ∧
      next.channels? start = controller.channels? start := by
  intro next
  have empty := owned.older (channels?_of_found found) late
  have ends : next = (controller.teardown start).setCall start
      (.returned (.error .superseded)) := by
    simp [next, onStarted, refused, fail, StartFailure.isSuperseded]
  rw [ends, teardown_eq found]
  refine ⟨?_, ?_, ?_⟩
  · have inRange := lt_length_of_found found
    rw [call?_setCall, if_pos rfl, List.getElem?_eq_getElem (by simpa using inRange)]
    rfl
  · change entry.attempt.channels.foldl Bus.unsubscribe controller.bus = _
    rw [empty]
    rfl
  · rw [channels?_setCall, channels?_putAttempt, if_pos rfl, found,
      channels?_of_found found, empty]
    rfl

/-- The latest start, which holds nothing yet when the service has answered,
subscribes the channels of status, agent and output, each name once and in the
first role that uses it, whatever the service advertises; a start that is
superseded subscribes nothing and changes nothing on the bus. -/
theorem Reachable.subscribes_what_is_advertised
    (reachable : Reachable config controller)
    (found : controller.starts[start]? = some entry) (links : List Link) :
    let id := entry.attempt.workspaceId
    (start + 1 = controller.starts.length → entry.attempt.channels = [] →
      ∃ status output next channels,
        (∀ channel, status = some channel ↔
          Link.Advertises links Relation.statusChannel channel) ∧
        (∀ channel, output = some channel ↔
          Link.Advertises links Relation.outputChannel channel) ∧
        controller.subscribeChannels? start entry.attempt links = some next ∧
        next.channels? start = some channels ∧
        channels = (status.toList ++ [agentChannel id] ++
          output.toList).eraseDups ∧
        agentChannel id ∈ channels ∧
        (∀ channel ∈ channels, next.bus.handler? channel = some ⟨start,
          if status = some channel then .status
          else if channel = agentChannel id then .agent
          else .output⟩) ∧
        ∀ channel ∉ channels, next.bus.handler? channel =
          controller.bus.handler? channel) ∧
    (start + 1 ≠ controller.starts.length →
      controller.subscribeChannels? start entry.attempt links = none ∧
      ∀ result : StartResult, result.links = links →
        let next := controller.onStarted start entry.attempt (.ok result)
        next.call? start = some (.returned (.error .superseded)) ∧
        next.bus = controller.bus ∧
        next.channels? start = controller.channels? start) ∧
    (controller.Unanswered start → entry.attempt.channels = []) := by
  intro id
  have isCurrent_iff : controller.isCurrent entry.attempt = true ↔
      start + 1 = controller.starts.length :=
    reachable.sound.numbered.isCurrent_iff ⟨entry, found, rfl⟩
  refine ⟨?_, ?_, reachable.holds_nothing_of_unanswered found⟩
  · intro latest bare
    obtain ⟨next, accepted, channels, serving⟩ :=
      subscribeChannels?_of_current links found (isCurrent_iff.mpr latest) bare
    refine ⟨Link.channelFor? links Relation.statusChannel,
      Link.channelFor? links Relation.outputChannel, next, _,
      fun _ => Link.channelFor?_eq_some_iff,
      fun _ => Link.channelFor?_eq_some_iff, accepted, channels, ?_, ?_, ?_, ?_⟩
    · rw [names_advertised]
    · simp [names_advertised, id]
    · intro channel member
      rw [serving, lookUp?_advertised (List.mem_eraseDups.mp member)]
      rfl
    · intro channel notMember
      rw [List.mem_eraseDups, ← lookUp?_eq_none_iff] at notMember
      rw [serving, notMember]
      rfl
  · intro isLate
    have inRange := lt_length_of_found found
    have refused : controller.subscribeChannels? start entry.attempt links =
        none := by
      rw [subscribeChannels?, if_neg (mt isCurrent_iff.mp isLate)]
    refine ⟨refused, ?_⟩
    rintro result rfl
    exact reachable.owned.onStarted_of_superseded found (by omega) refused

/-- A workspace is started twice, and the service advertises the channel of the
agent for the status and another one for the output. -/
theorem subscribes_what_is_advertised_after_restart :
    let id : WorkspaceId := ⟨"w"⟩
    let links := [Link.advertising Relation.statusChannel (agentChannel id),
      .advertising Relation.outputChannel "o",
      .advertising Relation.outputChannel "p"]
    ∃ controller first second next,
      (Controller.new ⟨1, 0, .agentServer⟩).run? [.begin id "", .begin id ""] =
        some controller ∧
      controller.starts = [first, second] ∧
      controller.subscribeChannels? 0 first.attempt links = none ∧
      controller.subscribeChannels? 1 second.attempt links = some next ∧
      next.channels? 1 = some [agentChannel id, "o"] ∧
      next.bus.handler? (agentChannel id) = some ⟨1, .status⟩ := by
  intro id links
  have ran : (Controller.new ⟨1, 0, .agentServer⟩).run?
      [.begin id "", .begin id ""] = some _ := rfl
  have reachable := Reachable.new.run ran
  obtain ⟨-, refuses, -⟩ :=
    @Reachable.subscribes_what_is_advertised _ _ 0 _ reachable rfl links
  obtain ⟨subscribes, -, empty⟩ :=
    @Reachable.subscribes_what_is_advertised _ _ 1 _ reachable rfl links
  obtain ⟨status, output, next, channels, isStatus, isOutput, accepted, held,
    names, ofAgent, serving, -⟩ := subscribes rfl (empty rfl)
  have isAgent : status = some (agentChannel id) :=
    (isStatus _).mpr ⟨[], _, _, _, [], rfl, nofun, rfl, rfl, rfl,
      agentChannel_ne_empty id⟩
  have isO : output = some "o" :=
    (isOutput _).mpr ⟨[_], _, [_], _, [], rfl, by decide, rfl, rfl, rfl,
      by decide⟩
  subst isAgent isO
  refine ⟨_, _, _, next, ran, rfl, (refuses (by decide)).1, accepted, ?_, ?_⟩
  · rw [held, names]
    decide +kernel
  · exact (serving _ ofAgent).trans
      (congrArg (fun kind => some (Handler.mk 1 kind)) (if_pos rfl))

end Controller

end WorkspaceStartup
