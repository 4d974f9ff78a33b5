import Mathlib.Data.List.DropRight
import Mathlib.Data.List.Nodup
import WorkspaceStartup.Proofs.Subscription
import WorkspaceStartup.Roster

/-!
# Attempts that share a bus

Of all that can be asked of attempts over one bus, only an accepted subscription
and the giving up of channels change what an attempt holds: these are the
happenings of a run.  As long as no two attempts subscribe the same channel, the
happenings tell what every attempt holds and which handlers are on the bus
(`Tells`).  One operation keeps that (`Tells.follows`), and so does every run
(`Tells.run`).
-/

namespace WorkspaceStartup

namespace Bus

theorem unsubscriptions_foldl_unsubscribe {Handler : Type} (bus : Bus Handler)
    (channels : List String) :
    (channels.foldl unsubscribe bus).unsubscriptions =
      bus.unsubscriptions + channels.length := by
  induction channels generalizing bus with
  | nil => rfl
  | cons channel channels induction =>
      rw [List.foldl_cons, induction]
      simp only [unsubscribe, List.length_cons]
      omega

end Bus

namespace Roster

/-- A change of what an attempt holds; the attempt is known by its position. -/
inductive Happening
  | subscribed (position : Nat) (channel : String) (handler : Nat)
  | gaveUp (position : Nat)
  deriving DecidableEq, Repr

namespace Happening

def position : Happening → Nat
  | subscribed position _ _ | gaveUp position => position

def channel? : Happening → Option String
  | subscribed _ channel _ => some channel
  | gaveUp _ => none

/-- The handler that an attempt subscribes a channel with. -/
def handlerOf? (position : Nat) (channel : String) : Happening → Option Nat
  | subscribed other name handler =>
      if other = position ∧ name = channel then some handler else none
  | gaveUp _ => none

/-- The channels that an attempt has subscribed since it last gave up all it
had, in the order of their subscription. -/
def held (position : Nat) (happenings : List Happening) : List String :=
  ((happenings.filter (·.position == position)).rtakeWhile
    (·.channel?.isSome)).filterMap channel?

/-- The handler of the last subscription of a channel by an attempt. -/
def lastHandler? (position : Nat) (channel : String)
    (happenings : List Happening) : Option Nat :=
  happenings.reverse.findSome? (handlerOf? position channel)

variable {happenings : List Happening} {position other : Nat}
  {channel name : String} {handler : Nat}

theorem held_concat_subscribed :
    held other (happenings ++ [subscribed position channel handler]) =
      if other = position then held other happenings ++ [channel]
      else held other happenings := by
  by_cases here : other = position
  · subst here
    simp [held, List.filter_append, Happening.position, channel?]
  · simp [held, List.filter_append, Happening.position, here, Ne.symm here]

theorem held_concat_gaveUp :
    held other (happenings ++ [gaveUp position]) =
      if other = position then [] else held other happenings := by
  by_cases here : other = position
  · subst here
    simp [held, List.filter_append, Happening.position, channel?]
  · simp [held, List.filter_append, Happening.position, here, Ne.symm here]

theorem lastHandler?_concat (happening : Happening) :
    lastHandler? position channel (happenings ++ [happening]) =
      (handlerOf? position channel happening).or
        (lastHandler? position channel happenings) := by
  simp only [lastHandler?, List.reverse_concat, List.findSome?_cons]
  cases handlerOf? position channel happening <;> rfl

theorem exists_of_mem_held (member : channel ∈ held position happenings) :
    ∃ handler, subscribed position channel handler ∈ happenings := by
  obtain ⟨happening, recent, isChannel⟩ := List.mem_filterMap.mp member
  have own := List.mem_filter.mp ((List.rtakeWhile_suffix _ _).mem recent)
  cases happening with
  | subscribed other name handler =>
      cases isChannel
      have same : other = position := by simpa [Happening.position] using own.2
      exact ⟨handler, same ▸ own.1⟩
  | gaveUp => cases isChannel

end Happening

open Happening

/-- No two attempts ever subscribe the same channel. -/
def Apart (happenings : List Happening) : Prop :=
  ∀ first ∈ happenings, ∀ second ∈ happenings,
    first.channel?.isSome = true → second.channel? = first.channel? →
      second.position = first.position

instance (happenings : List Happening) : Decidable (Apart happenings) :=
  inferInstanceAs (Decidable (∀ first ∈ happenings, ∀ second ∈ happenings, _))

/-- The channels that the attempt at a position holds. -/
def channelsAt (roster : Roster) (position : Nat) : List String :=
  (roster.attempts[position]?.map (·.channels)).getD []

/-- What an operation changes about the channels of an attempt. -/
def happening? (roster : Roster) : Operation → Option Happening
  | .subscribe handle channel handler =>
      match roster.handles[handle]?, roster.subscribe handle channel handler with
      | some position, .ok _ => some (subscribed position channel handler)
      | _, _ => none
  | .teardown handle | .invalidate handle =>
      roster.handles[handle]?.map gaveUp
  | .add _ _ _ | .copy _ | .activate _ | .publish _ _ => none

/-- What happens while operations are performed, the first one first. -/
def happenings (roster : Roster) : List Operation → List Happening
  | [] => []
  | operation :: later =>
      (roster.happening? operation).toList ++
        (roster.perform operation).1.happenings later

/-- The attempt at a position has subscribed a channel. -/
def subscribing (roster : Roster) (position : Nat) (attempt : Attempt)
    (channel : String) (handler : Nat) : Roster :=
  { roster with
    attempts := roster.attempts.set position
      { attempt with channels := attempt.channels ++ [channel] }
    bus := roster.bus.subscribe channel handler }

/-- The attempt at a position has given up its channels. -/
def released (roster : Roster) (position : Nat) (attempt : Attempt)
    (cancelled : Bool) : Roster :=
  { roster with
    attempts := roster.attempts.set position
      { attempt with cancelled := cancelled, channels := [] }
    bus := attempt.channels.foldl Bus.unsubscribe roster.bus }

/-- Every handle stands for an attempt. -/
def Placed (roster : Roster) : Prop :=
  ∀ position ∈ roster.handles, position < roster.attempts.length

/-! ## One operation -/

/-- What an operation makes of a roster when this or nothing happens. -/
inductive Follows (roster : Roster) : Option Happening → Roster → Prop
  | subscribed {position : Nat} {attempt : Attempt} {channel : String}
      (handler : Nat) (found : roster.attempts[position]? = some attempt)
      (named : channel ≠ "") (fresh : channel ∉ attempt.channels) :
      Follows roster (some (.subscribed position channel handler))
        (roster.subscribing position attempt channel handler)
  | gaveUp {position : Nat} {attempt : Attempt} (cancelled : Bool)
      (found : roster.attempts[position]? = some attempt) :
      Follows roster (some (.gaveUp position))
        (roster.released position attempt cancelled)
  | joined (generation : Nat) (added : List Attempt) (handles : List Nat)
      (bare : ∀ attempt ∈ added, attempt.channels = [])
      (placed : ∀ position ∈ handles,
        position < roster.attempts.length + added.length) :
      Follows roster none
        { roster with
          generation := generation
          attempts := roster.attempts ++ added
          handles := roster.handles ++ handles }

variable {roster next : Roster} {happenings : List Happening}
  {happening? : Option Happening} {operation : Operation} {handle : Nat}
  {attempt : Attempt}

theorem attempt?_eq_some_iff :
    roster.attempt? handle = some attempt ↔
      ∃ position, roster.handles[handle]? = some position ∧
        roster.attempts[position]? = some attempt :=
  Option.bind_eq_some_iff

theorem put_eq {position : Nat} (stands : roster.handles[handle]? = some position)
    (state : Attempt × Bus Nat) :
    roster.put handle state =
      { roster with
        attempts := roster.attempts.set position state.1
        bus := state.2 } := by
  simp [put, stands]

theorem Follows.idle (roster : Roster) : roster.Follows none roster := by
  simpa using @Follows.joined roster roster.generation [] []
    (by simp) (by simp)

theorem attempt?_eq_none (unknown : roster.handles[handle]? = none) :
    roster.attempt? handle = none := by
  simp [attempt?, unknown]

theorem attempt?_eq_some {position : Nat}
    (stands : roster.handles[handle]? = some position)
    (found : roster.attempts[position]? = some attempt) :
    roster.attempt? handle = some attempt :=
  attempt?_eq_some_iff.mpr ⟨position, stands, found⟩

theorem Placed.exists_attempt (placed : roster.Placed) {position : Nat}
    (stands : roster.handles[handle]? = some position) :
    ∃ attempt, roster.attempts[position]? = some attempt :=
  ⟨_, List.getElem?_eq_getElem
    (placed position (List.mem_of_getElem? stands))⟩

theorem teardown_eq {position : Nat}
    (stands : roster.handles[handle]? = some position)
    (found : roster.attempts[position]? = some attempt) :
    roster.teardown handle =
      roster.released position attempt attempt.cancelled := by
  simp only [teardown, attempt?_eq_some stands found, put_eq stands]
  rfl

theorem invalidate_eq {position : Nat}
    (stands : roster.handles[handle]? = some position)
    (found : roster.attempts[position]? = some attempt) :
    roster.invalidate handle = roster.released position attempt true := by
  simp only [invalidate, attempt?_eq_some stands found, put_eq stands]
  rfl

theorem subscribe_eq (found : roster.attempt? handle = some attempt)
    (channel : String) (handler : Nat) :
    roster.subscribe handle channel handler =
      (attempt.subscribe roster.bus channel handler).map (roster.put handle) := by
  simp [subscribe, found]

theorem subscribe_eq_self (unknown : roster.attempt? handle = none)
    (channel : String) (handler : Nat) :
    roster.subscribe handle channel handler = .ok roster := by
  simp [subscribe, unknown]

theorem Placed.follows_subscribe (placed : roster.Placed) (channel : String)
    (handler : Nat) :
    roster.Follows (roster.happening? (.subscribe handle channel handler))
      (roster.perform (.subscribe handle channel handler)).1 := by
  cases stands : roster.handles[handle]? with
  | none =>
      simp only [happening?, perform, stands,
        subscribe_eq_self (attempt?_eq_none stands)]
      exact .idle roster
  | some position =>
      obtain ⟨attempt, found⟩ := placed.exists_attempt stands
      simp only [happening?, perform, stands,
        subscribe_eq (attempt?_eq_some stands found)]
      cases accepted : attempt.subscribe roster.bus channel handler with
      | error => exact .idle roster
      | ok after =>
          obtain ⟨named, fresh, rfl⟩ := Attempt.subscribe_eq_ok_iff.mp accepted
          simp only [Except.map, put_eq stands]
          exact .subscribed handler found named fresh

/-- Giving up through a handle that stands for nothing changes nothing. -/
theorem Placed.follows_giveUp (placed : roster.Placed)
    (unknown : roster.handles[handle]? = none → next = roster)
    (known : ∀ position attempt, roster.handles[handle]? = some position →
      roster.attempts[position]? = some attempt →
        ∃ cancelled, next = roster.released position attempt cancelled) :
    roster.Follows (roster.handles[handle]?.map .gaveUp) next := by
  cases stands : roster.handles[handle]? with
  | none =>
      rw [unknown stands]
      exact .idle roster
  | some position =>
      obtain ⟨attempt, found⟩ := placed.exists_attempt stands
      obtain ⟨cancelled, rfl⟩ := known position attempt stands found
      exact .gaveUp cancelled found

theorem Placed.follows_perform (placed : roster.Placed) (operation : Operation) :
    roster.Follows (roster.happening? operation)
      (roster.perform operation).1 := by
  cases operation with
  | add => exact .joined roster.generation [_] [_] (by simp [Attempt.new]) (by simp)
  | copy handle =>
      have stands : ∀ position ∈ roster.handles[handle]?.toList,
          position < roster.attempts.length := fun position member =>
        placed position (List.mem_of_getElem? (Option.mem_toList.mp member))
      simpa [perform, copy, happening?] using @Follows.joined roster
        roster.generation [] roster.handles[handle]?.toList (by simp) stands
  | activate generation =>
      simpa [perform, happening?] using @Follows.joined roster
        generation [] [] (by simp) (by simp)
  | subscribe => exact placed.follows_subscribe ..
  | teardown handle =>
      refine placed.follows_giveUp ?_ ?_
      · intro unknown
        simp only [perform, teardown, attempt?_eq_none unknown]
      · intro position attempt stands found
        exact ⟨attempt.cancelled, teardown_eq stands found⟩
  | invalidate handle =>
      refine placed.follows_giveUp ?_ ?_
      · intro unknown
        simp only [perform, invalidate, attempt?_eq_none unknown]
      · intro position attempt stands found
        exact ⟨true, invalidate_eq stands found⟩
  | publish => exact .idle roster

theorem Follows.placed (follows : roster.Follows happening? next)
    (placed : roster.Placed) : next.Placed := by
  intro position member
  cases follows with
  | subscribed | gaveUp =>
      simpa [subscribing, released] using placed position member
  | joined generation added handles bare joined =>
      rw [List.length_append]
      rcases List.mem_append.mp member with earlier | later
      · exact Nat.lt_add_right _ (placed position earlier)
      · exact joined position later

/-! ## What the attempts hold -/

theorem channelsAt_of_found {position : Nat}
    (found : roster.attempts[position]? = some attempt) :
    roster.channelsAt position = attempt.channels := by
  simp [channelsAt, found]

theorem channelsAt_set {position : Nat} {changed : Attempt} {bus : Bus Nat}
    (found : roster.attempts[position]? = some attempt) (other : Nat) :
    channelsAt { roster with
        attempts := roster.attempts.set position changed, bus := bus } other =
      if other = position then changed.channels
      else roster.channelsAt other := by
  have inRange := (List.getElem?_eq_some_iff.mp found).1
  by_cases here : other = position
  · subst here
    simp [channelsAt, inRange]
  · simp [channelsAt, here, Ne.symm here]

theorem channelsAt_subscribing {position : Nat}
    (found : roster.attempts[position]? = some attempt) (channel : String)
    (handler other : Nat) :
    (roster.subscribing position attempt channel handler).channelsAt other =
      if other = position then roster.channelsAt position ++ [channel]
      else roster.channelsAt other := by
  rw [subscribing, channelsAt_set found, channelsAt_of_found found]

theorem channelsAt_released {position : Nat}
    (found : roster.attempts[position]? = some attempt) (cancelled : Bool)
    (other : Nat) :
    (roster.released position attempt cancelled).channelsAt other =
      if other = position then [] else roster.channelsAt other :=
  channelsAt_set found other

theorem handler?_released {position : Nat}
    (found : roster.attempts[position]? = some attempt) (cancelled : Bool)
    (channel : String) :
    (roster.released position attempt cancelled).bus.handler? channel =
      if channel ∈ roster.channelsAt position then none
      else roster.bus.handler? channel := by
  rw [released, Bus.handler?_foldl_unsubscribe, channelsAt_of_found found]

theorem channelsAt_append (roster : Roster) (generation : Nat)
    (handles : List Nat) {added : List Attempt}
    (bare : ∀ attempt ∈ added, attempt.channels = []) (position : Nat) :
    channelsAt { roster with
        generation := generation, attempts := roster.attempts ++ added,
        handles := handles } position = roster.channelsAt position := by
  simp only [channelsAt, List.getElem?_append]
  split
  · rfl
  · next beyond =>
      rw [List.getElem?_eq_none (Nat.le_of_not_lt beyond)]
      cases isAdded : added[position - roster.attempts.length]? with
      | none => rfl
      | some attempt => exact bare attempt (List.mem_of_getElem? isAdded)

/-- What happened tells which channels the attempts hold and which handlers
serve them, and no other channel is on the bus. -/
structure Tells (happenings : List Happening) (roster : Roster) : Prop where
  held : ∀ position, roster.channelsAt position = Happening.held position happenings
  sound : ∀ position, (roster.channelsAt position).Nodup ∧
    "" ∉ roster.channelsAt position
  served : ∀ position, ∀ channel ∈ roster.channelsAt position, ∃ handler,
    lastHandler? position channel happenings = some handler ∧
    roster.bus.handler? channel = some handler
  owned : ∀ channel, (roster.bus.handler? channel).isSome = true →
    ∃ position, channel ∈ roster.channelsAt position

theorem Tells.eq_of_mem (tells : Tells happenings roster)
    (apart : Apart happenings) {position other : Nat} {channel : String}
    (member : channel ∈ roster.channelsAt position)
    (otherMember : channel ∈ roster.channelsAt other) : other = position := by
  rw [tells.held] at member otherMember
  obtain ⟨handler, subscribed⟩ := exists_of_mem_held member
  obtain ⟨replacement, otherSubscribed⟩ := exists_of_mem_held otherMember
  exact apart _ subscribed _ otherSubscribed rfl rfl

theorem Apart.of_append {later : List Happening}
    (apart : Apart (happenings ++ later)) : Apart happenings := by
  intro first isFirst second isSecond
  exact apart first (List.mem_append_left _ isFirst) second
    (List.mem_append_left _ isSecond)

/-- Nobody else holds a channel that an attempt is about to subscribe, so nobody
loses a handler. -/
theorem Tells.unheld {position : Nat} {channel : String} {handler : Nat}
    (tells : Tells happenings roster)
    (apart : Apart (happenings ++ [.subscribed position channel handler]))
    (fresh : channel ∉ roster.channelsAt position) (other : Nat) :
    channel ∉ roster.channelsAt other := by
  intro member
  have before := member
  rw [tells.held] at before
  obtain ⟨replaced, earlier⟩ := exists_of_mem_held before
  have same : other = position :=
    apart _ (List.mem_append_right _ (List.mem_singleton.mpr rfl)) _
      (List.mem_append_left _ earlier) rfl rfl
  exact fresh (same ▸ member)

theorem Tells.subscribing {position : Nat} {channel : String} {handler : Nat}
    (tells : Tells happenings roster)
    (apart : Apart (happenings ++ [.subscribed position channel handler]))
    (found : roster.attempts[position]? = some attempt) (named : channel ≠ "")
    (fresh : channel ∉ roster.channelsAt position) :
    Tells (happenings ++ [.subscribed position channel handler])
      (roster.subscribing position attempt channel handler) := by
  have changed := channelsAt_subscribing found channel handler
  have unheld := tells.unheld apart fresh
  constructor
  case held =>
    intro other
    rw [changed, held_concat_subscribed, ← tells.held]
    split
    · next here => rw [here]
    · rfl
  case sound =>
    intro other
    rw [changed]
    split
    · obtain ⟨nodup, sound⟩ := tells.sound position
      refine ⟨?_, by simp [sound, Ne.symm named]⟩
      rw [← List.concat_eq_append]
      exact List.Nodup.concat fresh nodup
    · exact tells.sound other
  case served =>
    intro other name member
    have cases : name ∈ roster.channelsAt other ∨
        other = position ∧ name = channel := by
      rw [changed] at member
      split at member
      · next here => simpa [here] using member
      · exact .inl member
    rcases cases with before | ⟨rfl, rfl⟩
    · obtain ⟨serving, isLast, serves⟩ := tells.served other name before
      have different : name ≠ channel := by
        rintro rfl
        exact unheld other before
      refine ⟨serving, ?_, by simpa [Roster.subscribing, different] using serves⟩
      simpa [lastHandler?_concat, handlerOf?, Ne.symm different] using isLast
    · exact ⟨handler, by simp [lastHandler?_concat, handlerOf?],
        by simp [Roster.subscribing]⟩
  case owned =>
    intro name served
    by_cases isNew : name = channel
    · exact ⟨position, by simp [changed, isNew]⟩
    · obtain ⟨other, member⟩ :=
        tells.owned name (by simpa [Roster.subscribing, isNew] using served)
      refine ⟨other, ?_⟩
      rw [changed]
      split
      · next here => exact List.mem_append_left _ (here ▸ member)
      · exact member

theorem Tells.released {position : Nat} (tells : Tells happenings roster)
    (apart : Apart happenings)
    (found : roster.attempts[position]? = some attempt) (cancelled : Bool) :
    Tells (happenings ++ [.gaveUp position])
      (roster.released position attempt cancelled) := by
  have changed := channelsAt_released found cancelled
  have serving := handler?_released found cancelled
  constructor
  case held =>
    intro other
    rw [changed, held_concat_gaveUp, ← tells.held]
  case sound =>
    intro other
    rw [changed]
    split
    · exact ⟨List.nodup_nil, List.not_mem_nil⟩
    · exact tells.sound other
  case served =>
    intro other name member
    rw [changed] at member
    split at member
    · exact (List.not_mem_nil member).elim
    · next different =>
        obtain ⟨handler, isLast, serves⟩ := tells.served other name member
        refine ⟨handler, by simpa [lastHandler?_concat, handlerOf?] using isLast, ?_⟩
        rw [serving, if_neg]
        · exact serves
        · exact fun given => different (tells.eq_of_mem apart given member)
  case owned =>
    intro name served
    rw [serving] at served
    split at served
    · cases served
    · next kept =>
        obtain ⟨other, member⟩ := tells.owned name served
        refine ⟨other, ?_⟩
        rw [changed, if_neg]
        · exact member
        · rintro rfl
          exact kept member

theorem Tells.joined (tells : Tells happenings roster) (generation : Nat)
    {added : List Attempt} {handles : List Nat}
    (bare : ∀ attempt ∈ added, attempt.channels = []) :
    Tells happenings { roster with
      generation := generation, attempts := roster.attempts ++ added,
      handles := handles } := by
  have same := roster.channelsAt_append generation handles bare
  constructor
  case held =>
    simpa only [same] using tells.held
  case sound =>
    simpa only [same] using tells.sound
  case served =>
    simpa only [same] using tells.served
  case owned =>
    simpa only [same] using tells.owned

theorem Tells.follows (tells : Tells happenings roster)
    (apart : Apart (happenings ++ happening?.toList))
    (follows : roster.Follows happening? next) :
    Tells (happenings ++ happening?.toList) next := by
  cases follows with
  | subscribed handler found named fresh =>
      rw [← channelsAt_of_found found] at fresh
      exact tells.subscribing apart found named fresh
  | gaveUp cancelled found =>
      exact tells.released apart.of_append found cancelled
  | joined generation added handles bare placed =>
      simpa using tells.joined generation bare

/-! ## Any number of operations -/

theorem placed_new (generation : Nat) : (new generation).Placed := by
  intro position member
  cases member

theorem tells_new (generation : Nat) : Tells [] (new generation) where
  held := fun _ => rfl
  sound := fun _ => ⟨List.nodup_nil, List.not_mem_nil⟩
  served := fun _ _ member => (List.not_mem_nil member).elim
  owned := fun _ served => by cases served

theorem Placed.run (placed : roster.Placed) (operations : List Operation) :
    (roster.run operations).Placed := by
  induction operations generalizing roster with
  | nil => exact placed
  | cons operation later induction =>
      exact induction ((placed.follows_perform operation).placed placed)

theorem Tells.run (placed : roster.Placed) (tells : Tells happenings roster)
    (operations : List Operation)
    (apart : Apart (happenings ++ roster.happenings operations)) :
    Tells (happenings ++ roster.happenings operations)
      (roster.run operations) := by
  induction operations generalizing roster happenings with
  | nil => simpa [Roster.happenings, Roster.run] using tells
  | cons operation later induction =>
      have follows := placed.follows_perform operation
      rw [Roster.happenings, ← List.append_assoc] at apart ⊢
      exact induction (follows.placed placed)
        (tells.follows apart.of_append follows) apart

theorem Follows.exists_handles (follows : roster.Follows happening? next) :
    ∃ handles, next.handles = roster.handles ++ handles := by
  cases follows with
  | subscribed | gaveUp => exact ⟨[], by simp [subscribing, released]⟩
  | joined _ _ handles => exact ⟨handles, rfl⟩

/-- A handle stands for the same attempt for ever. -/
theorem Placed.handle_run (placed : roster.Placed) {position : Nat}
    (stands : roster.handles[handle]? = some position)
    (operations : List Operation) :
    (roster.run operations).handles[handle]? = some position := by
  induction operations generalizing roster with
  | nil => exact stands
  | cons operation later induction =>
      have follows := placed.follows_perform operation
      obtain ⟨handles, extended⟩ := follows.exists_handles
      refine induction (follows.placed placed) ?_
      rw [extended, List.getElem?_append_left, stands]
      exact (List.getElem?_eq_some_iff.mp stands).1

/-- A copied handle shows the same attempt whatever is done later. -/
theorem Placed.attempt?_copied (placed : roster.Placed)
    (known : handle < roster.handles.length) (later : List Operation) :
    let copied := (roster.perform (.copy handle)).1.run later
    copied.attempt? roster.handles.length = copied.attempt? handle := by
  intro copied
  have stands : roster.handles[handle]? = some roster.handles[handle] :=
    List.getElem?_eq_getElem known
  have handles : (roster.perform (.copy handle)).1.handles =
      roster.handles ++ [roster.handles[handle]] := by
    simp [perform, copy, stands]
  have placedNext :=
    (placed.follows_perform (.copy handle)).placed placed
  have original : (roster.perform (.copy handle)).1.handles[handle]? =
      some roster.handles[handle] := by
    rw [handles, List.getElem?_append_left known, stands]
  have twin : (roster.perform (.copy handle)).1.handles[roster.handles.length]? =
      some roster.handles[handle] := by
    rw [handles, List.getElem?_concat_length]
  simp only [attempt?, copied, placedNext.handle_run original later,
    placedNext.handle_run twin later]

/-! ## Refusing and giving up -/

theorem perform_subscribe {position : Nat}
    (stands : roster.handles[handle]? = some position)
    (found : roster.attempts[position]? = some attempt) (channel : String)
    (handler : Nat) :
    roster.perform (.subscribe handle channel handler) =
      if channel = "" then (roster, .refused .emptyChannel)
      else if channel ∈ attempt.channels then
        (roster, .refused (.alreadySubscribed channel))
      else (roster.subscribing position attempt channel handler, .done) := by
  have asks := subscribe_eq (attempt?_eq_some stands found) channel handler
  by_cases blank : channel = ""
  · subst blank
    simp [perform, asks, Attempt.subscribe, Except.map]
  · by_cases held : channel ∈ attempt.channels
    · simp [perform, asks, Attempt.subscribe, blank, Attempt.holds, held,
        Except.map]
    · simp [perform, asks, Attempt.subscribe, blank, Attempt.holds, held,
        Except.map, put_eq stands, subscribing]

theorem perform_teardown {position : Nat}
    (stands : roster.handles[handle]? = some position)
    (found : roster.attempts[position]? = some attempt) :
    roster.perform (.teardown handle) =
      (roster.released position attempt attempt.cancelled,
        .tornDown attempt.channels.length) := by
  simp [perform, teardown_eq stands found, attempt?_eq_some stands found]

/-- An attempt gives up its channels and nothing else: for each of them the bus
is told once, and there is nothing left to give up. -/
structure GivesUp (roster : Roster) (handle : Nat) (attempt : Attempt)
    (next : Roster) : Prop where
  channelsAt : ∀ position, next.channelsAt position =
    if roster.handles[handle]? = some position then []
    else roster.channelsAt position
  handler? : ∀ channel, next.bus.handler? channel =
    if channel ∈ attempt.channels then none else roster.bus.handler? channel
  told : next.bus = attempt.channels.foldl Bus.unsubscribe roster.bus
  calls : next.bus.unsubscriptions =
    roster.bus.unsubscriptions + attempt.channels.length
  again : next.perform (.teardown handle) = (next, .tornDown 0)

theorem givesUp_released {position : Nat}
    (stands : roster.handles[handle]? = some position)
    (found : roster.attempts[position]? = some attempt) (cancelled : Bool) :
    roster.GivesUp handle attempt
      (roster.released position attempt cancelled) where
  channelsAt := by
    intro other
    rw [channelsAt_released found, stands]
    simp [eq_comm]
  handler? := by
    intro channel
    rw [handler?_released found, channelsAt_of_found found]
  told := rfl
  calls := Bus.unsubscriptions_foldl_unsubscribe ..
  again := by
    let bare : Attempt := { attempt with cancelled := cancelled, channels := [] }
    let next := roster.released position attempt cancelled
    have inRange := (List.getElem?_eq_some_iff.mp found).1
    have standsNext : next.handles[handle]? = some position := stands
    have foundNext : next.attempts[position]? = some bare := by
      simp [next, released, bare, inRange]
    have same : next.released position bare bare.cancelled = next := by
      simp [next, released, bare]
    exact (perform_teardown standsNext foundNext).trans
      (congrArg (·, Answer.tornDown 0) same)

/-- Attempts over one bus that never subscribe the same channel: whatever is
asked of them, what each of them holds is what it has subscribed since it last
gave up its channels, the bus serves just that with the handlers of the last
subscriptions, a refused subscription changes nothing, giving up takes away the
attempt's own channels, and copies of a handle show the same attempt. -/
theorem rosters_tell_their_subscriptions (generation : Nat)
    (operations : List Operation)
    (apart : Apart ((new generation).happenings operations)) :
    let roster := (new generation).run operations
    let happenings := (new generation).happenings operations
    (∀ position,
      roster.channelsAt position = Happening.held position happenings ∧
      (roster.channelsAt position).Nodup ∧
      "" ∉ roster.channelsAt position) ∧
    (∀ channel, channel ∈ roster.bus.channels ↔
      ∃ position, channel ∈ roster.channelsAt position) ∧
    (∀ position, ∀ channel ∈ roster.channelsAt position,
      (∀ other, channel ∈ roster.channelsAt other → other = position) ∧
      ∃ handler, lastHandler? position channel happenings = some handler ∧
        roster.bus.handler? channel = some handler) ∧
    (∀ handle attempt channel handler,
      roster.attempt? handle = some attempt →
      let result := roster.perform (.subscribe handle channel handler)
      (result.2 = .done ↔ channel ≠ "" ∧ channel ∉ attempt.channels) ∧
      (result.2 ≠ .done → result.1 = roster)) ∧
    (∀ handle attempt, roster.attempt? handle = some attempt →
      (roster.perform (.teardown handle)).2 =
        .tornDown attempt.channels.length ∧
      roster.GivesUp handle attempt (roster.perform (.teardown handle)).1 ∧
      roster.GivesUp handle attempt (roster.perform (.invalidate handle)).1) ∧
    (∀ handle later, handle < roster.handles.length →
      let copied := (roster.perform (.copy handle)).1.run later
      copied.attempt? roster.handles.length = copied.attempt? handle) := by
  intro roster happenings
  have placed : roster.Placed := (placed_new generation).run operations
  have tells : Tells happenings roster :=
    (tells_new generation).run (placed_new generation) operations apart
  refine ⟨?_, ?_, ?_, ?_, ?_, ?_⟩
  · intro position
    exact ⟨tells.held position, tells.sound position⟩
  · intro channel
    rw [Bus.mem_channels_iff]
    constructor
    · exact tells.owned channel
    · rintro ⟨position, member⟩
      obtain ⟨handler, -, served⟩ := tells.served position channel member
      simp [served]
  · intro position channel member
    exact ⟨fun other => tells.eq_of_mem apart member,
      tells.served position channel member⟩
  · intro handle attempt channel handler isFound
    obtain ⟨position, stands, found⟩ := attempt?_eq_some_iff.mp isFound
    simp only [perform_subscribe stands found]
    by_cases blank : channel = ""
    · simp [blank]
    · by_cases held : channel ∈ attempt.channels <;> simp [blank, held]
  · intro handle attempt isFound
    obtain ⟨position, stands, found⟩ := attempt?_eq_some_iff.mp isFound
    rw [perform_teardown stands found]
    refine ⟨rfl, givesUp_released stands found _, ?_⟩
    rw [perform, invalidate_eq stands found]
    exact givesUp_released stands found true
  · intro handle later known
    exact placed.attempt?_copied known later

/-- Two attempts, one of them with two handles, that subscribe, are refused,
give up their channels and subscribe again. -/
theorem rosters_tell_their_subscriptions_of_two :
    let operations : List Operation :=
      [.add ⟨"v"⟩ 1 3, .add ⟨"w"⟩ 1 3, .copy 0, .subscribe 0 "a" 0,
        .subscribe 2 "b" 1, .subscribe 1 "c" 2, .subscribe 2 "a" 3,
        .subscribe 1 "" 4, .teardown 2, .publish "a" "x", .subscribe 0 "a" 5]
    let roster := (new 1).run operations
    Apart ((new 1).happenings operations) ∧
    roster.channelsAt 0 = ["a"] ∧ roster.bus.handler? "a" = some 5 ∧
    roster.attempt? 2 = roster.attempt? 0 ∧
    (roster.perform (.teardown 2)).2 = .tornDown 1 := by
  intro operations roster
  have apart : Apart ((new 1).happenings operations) := by decide +kernel
  obtain ⟨held, -, served, -, givesUp, -⟩ :=
    rosters_tell_their_subscriptions 1 operations apart
  have holds : roster.channelsAt 0 = ["a"] :=
    (held 0).1.trans (by decide +kernel)
  obtain ⟨-, handler, isLast, serves⟩ := served 0 "a" (holds ▸ List.mem_cons_self)
  have isFive : some handler = some 5 := isLast.symm.trans (by decide +kernel)
  exact ⟨apart, holds, serves.trans isFive, by decide +kernel,
    (givesUp 2 _ rfl).1⟩

end Roster

end WorkspaceStartup
