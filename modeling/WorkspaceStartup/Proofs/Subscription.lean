import WorkspaceStartup.Attempt
import WorkspaceStartup.Proofs.Dictionary

/-!
# Subscriptions of an attempt

The bus under subscribing and unsubscribing, and an attempt that is the only
one with channels on it: `Bus.Serves` says that the subscribed channels are
exactly those the attempt holds.  Every operation of an attempt keeps it.
-/

namespace WorkspaceStartup

namespace Bus

variable {Handler : Type}

@[simp] theorem handler?_subscribe (bus : Bus Handler)
    (channel other : String) (handler : Handler) :
    (bus.subscribe channel handler).handler? other =
      if other = channel then some handler else bus.handler? other := by
  simp [handler?, subscribe]

@[simp] theorem handler?_unsubscribe (bus : Bus Handler)
    (channel other : String) :
    (bus.unsubscribe channel).handler? other =
      if other = channel then none else bus.handler? other := by
  simp [handler?, unsubscribe]

theorem handler?_foldl_unsubscribe (bus : Bus Handler)
    (channels : List String) (channel : String) :
    (channels.foldl unsubscribe bus).handler? channel =
      if channel ∈ channels then none else bus.handler? channel := by
  induction channels generalizing bus with
  | nil => simp
  | cons first rest induction =>
      rw [List.foldl_cons, induction, handler?_unsubscribe]
      by_cases inRest : channel ∈ rest
      · simp [inRest]
      · by_cases isFirst : channel = first
        · simp [isFirst]
        · simp [inRest, isFirst]

/-- Unsubscribing forgets no handler: a delivery to it may be under way. -/
@[simp] theorem history_foldl_unsubscribe (bus : Bus Handler)
    (channels : List String) :
    (channels.foldl unsubscribe bus).history = bus.history := by
  induction channels generalizing bus with
  | nil => rfl
  | cons first rest induction => exact induction (bus.unsubscribe first)

theorem mem_channels_iff (bus : Bus Handler) (channel : String) :
    channel ∈ bus.channels ↔ (bus.handler? channel).isSome = true :=
  bus.handlers.mem_names_iff channel

/-- A message may still reach the handler: it is subscribed, or it once was and
a delivery to it is under way. -/
def Knows (bus : Bus Handler) (handler : Handler) : Prop :=
  handler ∈ bus.history ∨ ∃ channel, bus.handler? channel = some handler

theorem Knows.of_subscribe {bus : Bus Handler} {channel : String}
    {handler other : Handler}
    (known : (bus.subscribe channel handler).Knows other) :
    bus.Knows other ∨ other = handler := by
  rcases known with remembered | ⟨name, served⟩
  · rcases List.mem_append.mp remembered with before | isNew
    · exact .inl (.inl before)
    · exact .inr (List.mem_singleton.mp isNew)
  · rw [handler?_subscribe] at served
    split at served
    · cases served
      exact .inr rfl
    · exact .inl (.inr ⟨name, served⟩)

theorem Knows.of_foldl_unsubscribe {bus : Bus Handler} {channels : List String}
    {handler : Handler} (known : (channels.foldl unsubscribe bus).Knows handler) :
    bus.Knows handler := by
  rcases known with remembered | ⟨name, served⟩
  · rw [history_foldl_unsubscribe] at remembered
    exact .inl remembered
  · rw [handler?_foldl_unsubscribe] at served
    split at served
    · cases served
    · exact .inr ⟨name, served⟩

/-- The subscribed channels are exactly the given ones, without repetition, and
their handlers are of the given kind. -/
structure Serves (bus : Bus Handler) (channels : List String)
    (own : Handler → Prop) : Prop where
  nodup : channels.Nodup
  named : "" ∉ channels
  held : ∀ channel,
    channel ∈ channels ↔ (bus.handler? channel).isSome = true
  owned : ∀ {channel handler}, bus.handler? channel = some handler → own handler

theorem serves_nothing {bus : Bus Handler} {own : Handler → Prop}
    (unserved : ∀ channel, bus.handler? channel = none) :
    bus.Serves [] own where
  nodup := List.nodup_nil
  named := List.not_mem_nil
  held := by simp [unserved]
  owned := by simp [unserved]

theorem Serves.of_handler? {bus after : Bus Handler} {channels : List String}
    {own : Handler → Prop} (serves : bus.Serves channels own)
    (same : ∀ channel, after.handler? channel = bus.handler? channel) :
    after.Serves channels own where
  nodup := serves.nodup
  named := serves.named
  held := by simpa only [same] using serves.held
  owned := by
    intro channel handler served
    rw [same] at served
    exact serves.owned served

/-- Giving up all the channels that are served leaves the bus empty. -/
theorem Serves.handler?_foldl_unsubscribe {bus : Bus Handler}
    {channels : List String} {own : Handler → Prop}
    (serves : bus.Serves channels own) (channel : String) :
    (channels.foldl unsubscribe bus).handler? channel = none := by
  rw [Bus.handler?_foldl_unsubscribe]
  split
  · rfl
  · next notHeld => simpa [serves.held] using notHeld

end Bus

namespace Attempt

variable {Handler : Type}

/-- The attempt as it was before it held any channel. -/
def bare (attempt : Attempt) : Attempt := { attempt with channels := [] }

variable {attempt : Attempt} {bus : Bus Handler} {own : Handler → Prop}

/-- A subscription that is accepted adds one channel with its handler. -/
theorem subscribe_eq_ok_iff {channel : String} {handler : Handler}
    {after : Attempt × Bus Handler} :
    attempt.subscribe bus channel handler = .ok after ↔
      channel ≠ "" ∧ channel ∉ attempt.channels ∧
        after = ({ attempt with channels := attempt.channels ++ [channel] },
          bus.subscribe channel handler) := by
  unfold subscribe
  by_cases blank : channel = ""
  · simp [blank]
  · by_cases held : channel ∈ attempt.channels
    · simp [blank, holds, held]
    · simp only [holds, List.contains_eq_mem, held, decide_false,
        Bool.false_eq_true, if_false, String.isEmpty_iff, blank,
        Except.ok.injEq, ne_eq, not_false_eq_true, true_and]
      exact eq_comm

theorem serves_subscribe {channel : String} {handler : Handler}
    {after : Attempt × Bus Handler} (serves : bus.Serves attempt.channels own)
    (mine : own handler)
    (accepted : attempt.subscribe bus channel handler = .ok after) :
    after.2.Serves after.1.channels own := by
  obtain ⟨notBlank, notHeld, rfl⟩ := subscribe_eq_ok_iff.mp accepted
  constructor
  · rw [List.nodup_append]
    refine ⟨serves.nodup, by simp, ?_⟩
    intro first firstHeld second isSecond equality
    rw [List.mem_singleton.mp isSecond] at equality
    exact notHeld (equality ▸ firstHeld)
  · simp [serves.named, Ne.symm notBlank]
  · intro other
    by_cases same : other = channel
    · simp [same]
    · simp [same, serves.held]
  · intro other found served
    rw [Bus.handler?_subscribe] at served
    split at served
    · cases served
      exact mine
    · exact serves.owned served

theorem serves_subscribeEach {offers : List (String × Handler)}
    (serves : bus.Serves attempt.channels own)
    (mine : ∀ offer ∈ offers, own offer.2) :
    (attempt.subscribeEach bus offers).2.Serves
      (attempt.subscribeEach bus offers).1.channels own := by
  induction offers generalizing attempt bus with
  | nil => exact serves
  | cons offer others induction =>
      have othersMine : ∀ offer ∈ others, own offer.2 :=
        fun offer member => mine offer (List.mem_cons_of_mem _ member)
      unfold Attempt.subscribeEach
      split
      · next accepted =>
          exact induction
            (serves_subscribe serves (mine offer List.mem_cons_self) accepted)
            othersMine
      · exact induction serves othersMine

/-- Subscribing changes nothing of an attempt but its channels. -/
@[simp] theorem bare_subscribeEach (attempt : Attempt) (bus : Bus Handler)
    (offers : List (String × Handler)) :
    (attempt.subscribeEach bus offers).1.bare = attempt.bare := by
  induction offers generalizing attempt bus with
  | nil => rfl
  | cons offer others induction =>
      unfold subscribeEach
      split
      · next accepted =>
          obtain ⟨-, -, equality⟩ := subscribe_eq_ok_iff.mp accepted
          cases equality
          exact induction _ _
      · exact induction attempt bus

/-- What subscribing adds to the history are handlers that were offered. -/
theorem history_subscribeEach (attempt : Attempt) (bus : Bus Handler)
    (offers : List (String × Handler)) :
    ∃ added, (attempt.subscribeEach bus offers).2.history =
        bus.history ++ added ∧
      ∀ handler ∈ added, handler ∈ offers.map (·.2) := by
  induction offers generalizing attempt bus with
  | nil => exact ⟨[], by simp [subscribeEach], by simp⟩
  | cons offer others induction =>
      unfold subscribeEach
      split
      · next accepted =>
          obtain ⟨-, -, equality⟩ := subscribe_eq_ok_iff.mp accepted
          cases equality
          obtain ⟨added, history, offered⟩ := induction
            { attempt with channels := attempt.channels ++ [offer.1] }
            (bus.subscribe offer.1 offer.2)
          refine ⟨offer.2 :: added, ?_, ?_⟩
          · simpa [Bus.subscribe] using history
          · intro handler member
            rcases List.mem_cons.mp member with rfl | later
            · simp
            · exact List.mem_cons_of_mem _ (offered handler later)
      · obtain ⟨added, history, offered⟩ := induction attempt bus
        exact ⟨added, history,
          fun handler member => List.mem_cons_of_mem _ (offered handler member)⟩

/-- What a bus knows after subscribing it knew before, or it was offered. -/
theorem knows_of_subscribeEach {offers : List (String × Handler)}
    {handler : Handler}
    (known : (attempt.subscribeEach bus offers).2.Knows handler) :
    bus.Knows handler ∨ handler ∈ offers.map (·.2) := by
  induction offers generalizing attempt bus with
  | nil => exact .inl known
  | cons offer others induction =>
      unfold subscribeEach at known
      split at known
      · next accepted =>
          obtain ⟨-, -, equality⟩ := subscribe_eq_ok_iff.mp accepted
          cases equality
          rcases induction known with before | later
          · rcases before.of_subscribe with known | rfl
            · exact .inl known
            · exact .inr List.mem_cons_self
          · exact .inr (List.mem_cons_of_mem _ later)
      · rcases induction known with before | later
        · exact .inl before
        · exact .inr (List.mem_cons_of_mem _ later)

end Attempt

end WorkspaceStartup
