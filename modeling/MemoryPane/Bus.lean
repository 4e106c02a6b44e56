import MemoryPane.Event

/-!
The bus carries events from the debugger to every subscriber. Each subscription has a mailbox, which
keeps the events delivered to it until they are taken; no event is lost and none is delivered twice.
Whether a subscriber is registered and whether its subscription still exists are two things: events
delivered before `unsubscribe` or `close` can still be taken, and a subscription that was dropped
stays registered until the next `publish` finds it gone.
-/

namespace MemoryPane

@[ext]
structure Subscriber where
  number : Nat
  deriving DecidableEq

/-- The events delivered to a subscription and not taken yet, oldest first. -/
structure Mailbox where
  owner : Subscriber
  pending : List Event
  deriving DecidableEq

structure Bus where
  /-- Registered subscribers, in order of subscription. -/
  registered : List Subscriber := []
  mailboxes : List Mailbox := []
  nextNumber : Nat := 0
  /-- Nothing is delivered any more. -/
  closed : Bool := false
  deriving DecidableEq

namespace Bus

/-- The subscription of `id` exists. -/
def isLive (bus : Bus) (id : Subscriber) : Bool :=
  bus.mailboxes.any fun box => box.owner == id

/-- The events that the subscription of `id` has not taken yet; none if it was dropped. -/
def pending (bus : Bus) (id : Subscriber) : List Event :=
  match bus.mailboxes.find? fun box => box.owner == id with
  | some box => box.pending
  | none => []

def setPending (bus : Bus) (id : Subscriber) (events : List Event) : Bus :=
  { bus with
    mailboxes := bus.mailboxes.map fun box =>
      if box.owner = id then { box with pending := events } else box }

/-- A new subscription. On a closed bus it exists, but is never registered. -/
def subscribe (bus : Bus) : Subscriber × Bus :=
  let id : Subscriber := ⟨bus.nextNumber⟩
  (id,
    { bus with
      registered := if bus.closed then bus.registered else bus.registered ++ [id]
      mailboxes := bus.mailboxes ++ [⟨id, []⟩]
      nextNumber := bus.nextNumber + 1 })

/-- Removes the subscriber `id` and says whether it was registered. Its mailbox stays. -/
def unsubscribe (bus : Bus) (id : Subscriber) : Bool × Bus :=
  (bus.registered.contains id, { bus with registered := bus.registered.filter (· != id) })

/-- Drops the subscription of `id` with all that is pending for it. -/
def drop (bus : Bus) (id : Subscriber) : Bus :=
  { bus with mailboxes := bus.mailboxes.filter fun box => box.owner != id }

/-- Delivers an event to every registered subscriber whose subscription exists, forgets the others,
and says how many received it. A closed bus delivers nothing. -/
def publish (bus : Bus) (event : Event) : Nat × Bus :=
  if bus.closed then (0, bus)
  else
    let reached := bus.registered.filter bus.isLive
    (reached.length,
      { bus with
        registered := reached
        mailboxes := bus.mailboxes.map fun box =>
          if reached.contains box.owner then { box with pending := box.pending ++ [event] }
          else box })

def poll (bus : Bus) (id : Subscriber) : Option Event × Bus :=
  match bus.pending id with
  | [] => (none, bus)
  | event :: rest => (some event, bus.setPending id rest)

/-- Takes the next event, and waits no time for one to come. -/
def wait (bus : Bus) (id : Subscriber) : Option Event × Bus := bus.poll id

def drain (bus : Bus) (id : Subscriber) : List Event × Bus :=
  (bus.pending id, bus.setPending id [])

/-- Removes every subscriber and stops all delivery. -/
def close (bus : Bus) : Bus :=
  { bus with registered := [], closed := true }

end Bus

end MemoryPane
