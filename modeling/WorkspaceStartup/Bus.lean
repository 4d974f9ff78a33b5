import WorkspaceStartup.Dictionary

/-!
# The message bus

A bus delivers the messages published on a channel to the channel's handler.
A channel has at most one handler, and subscribing again replaces it.  The bus
also remembers every handler that was ever subscribed, since a delivery may
still be under way when its handler is removed.
-/

namespace WorkspaceStartup

structure Bus (Handler : Type) where
  handlers : Dictionary Handler
  /-- Every handler ever subscribed, in order. -/
  history : List Handler
  unsubscriptions : Nat

namespace Bus

def empty : Bus Handler := ⟨.empty, [], 0⟩

instance : Inhabited (Bus Handler) := ⟨empty⟩

def subscribe (bus : Bus Handler) (channel : String) (handler : Handler) :
    Bus Handler :=
  { bus with
    handlers := bus.handlers.insert channel handler
    history := bus.history ++ [handler] }

def unsubscribe (bus : Bus Handler) (channel : String) : Bus Handler :=
  { bus with
    handlers := bus.handlers.erase channel
    unsubscriptions := bus.unsubscriptions + 1 }

def handler? (bus : Bus Handler) (channel : String) : Option Handler :=
  bus.handlers.get? channel

/-- The subscribed channels in the order of their names. -/
def channels (bus : Bus Handler) : List String := bus.handlers.names

/-- How many subscriptions were ever made. -/
def subscriptions (bus : Bus Handler) : Nat := bus.history.length

end Bus

end WorkspaceStartup
