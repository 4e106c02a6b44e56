import MemoryPane.Proofs.Bus.Run

/-!
Delivery. What the holder of a subscription has received so far, followed by what still waits for
it, is exactly what was published from its subscription on until delivery to it ended, in order and
as often as it was published (`received_append_pending`). One action keeps this balance
(`taken_append_pending`), because an event is added to a mailbox only by `publish` and taken out
only from the front. `serves` collects what holds of a bus after any sequence of actions.
-/

namespace MemoryPane.Bus

/-! ## Accounts of a run -/

/-- The events that an action hands to the holder of `id`. -/
def taken (bus : Bus) (id : Subscriber) : Action → List Event
  | .poll holder => if holder = id then (bus.poll id).1.toList else []
  | .wait holder => if holder = id then (bus.wait id).1.toList else []
  | .drain holder => if holder = id then (bus.drain id).1 else []
  | _ => []

/-- The events that the holder of `id` receives in a sequence of actions. -/
def received (bus : Bus) (id : Subscriber) : List Action → List Event
  | [] => []
  | action :: actions => bus.taken id action ++ (bus.act action).received id actions

def Action.event? : Action → Option Event
  | .publish event => some event
  | _ => none

def published (actions : List Action) : List Event := actions.filterMap Action.event?

/-- The subscribers that a sequence of actions makes. -/
def issued (bus : Bus) : List Action → List Subscriber
  | [] => []
  | action :: actions =>
    (if action = .subscribe then [bus.subscribe.1] else []) ++ (bus.act action).issued actions

variable {bus : Bus} {id : Subscriber}

theorem published_cons (action : Action) (actions : List Action) :
    published (action :: actions) = action.event?.toList ++ published actions := by
  cases published? : action.event? <;> simp [published, published?]

theorem event?_of_ends {action : Action} (ends : action.ends id = true) :
    action.event? = none := by
  cases action with
  | unsubscribe | close => rfl
  | subscribe | publish | drop | poll | wait | drain => simp [Action.ends] at ends

/-! ## Exactly once and in order -/

/-- In one action, nothing is lost and nothing is added but what is published. -/
theorem taken_append_pending (wf : bus.WellFormed) (live : bus.isLive id = true) {action : Action}
    (stays : action ≠ .drop id) :
    bus.taken id action ++ (bus.act action).pending id =
      bus.pending id ++ if id ∈ bus.registered then action.event?.toList else [] := by
  rw [isLive_eq, Option.isSome_iff_exists] at live
  obtain ⟨events, held⟩ := live
  have polled (holder : Subscriber) :
      (if holder = id then (bus.poll id).1.toList else []) ++ (bus.poll holder).2.pending id =
        bus.pending id := by
    rw [pending_eq, mail?_poll, pending_eq, held]
    by_cases same : holder = id
    · subst same
      cases events with
      | nil => simp [poll, pending_eq, held]
      | cons event rest => simp [poll, pending_eq, held]
    · simp [same, Ne.symm same]
  cases action with
  | subscribe => simp [taken, act, pending_eq, mail?_subscribe, held, Action.event?]
  | unsubscribe | close => simp [taken, act, pending_eq, held, Action.event?]
  | publish event =>
      rw [pending_eq, act, mail?_publish, pending_eq, held]
      by_cases member : id ∈ bus.registered
      · -- a bus with a registered subscriber is open
        have opened : bus.closed = false := by
          rw [← Bool.not_eq_true]
          intro closed
          rw [wf.closed closed] at member
          exact List.not_mem_nil member
        simp [taken, opened, member, Action.event?]
      · simp [taken, member]
  | drop other =>
      have other : id ≠ other := fun same => stays (same ▸ rfl)
      simp [taken, act, pending_eq, mail?_drop, held, other, Action.event?]
  | poll holder | wait holder =>
      simp only [Action.event?, Option.toList_none, ite_self, List.append_nil]
      exact polled holder
  | drain holder =>
      rw [pending_eq, act, mail?_drain, pending_eq, held]
      by_cases same : holder = id
      · simp [taken, drain, same, pending_eq, held, Action.event?]
      · simp [taken, same, Ne.symm same, Action.event?]

/-- What was received and what still waits is what waited before and what was published since, as
far as it was to be delivered. -/
theorem received_append_pending (wf : bus.WellFormed) (live : bus.isLive id = true)
    {actions : List Action} (stays : .drop id ∉ actions) :
    bus.received id actions ++ (bus.run actions).pending id =
      bus.pending id ++
        if id ∈ bus.registered then published (actions.takeWhile fun action => !action.ends id)
        else [] := by
  induction actions generalizing bus with
  | nil => simp [received, published]
  | cons action actions ih =>
      rw [List.mem_cons, not_or] at stays
      have other : action ≠ .drop id := fun same => stays.1 same.symm
      have still : (bus.act action).isLive id = true := isLive_act_iff.mpr (.inl ⟨live, other⟩)
      rw [received, run_cons, List.append_assoc, ih (wf.act action) still stays.2,
        ← List.append_assoc, taken_append_pending wf live other, List.append_assoc]
      congr 1
      by_cases member : id ∈ bus.registered
      · cases ends : action.ends id with
        | true =>
            have gone : id ∉ (bus.act action).registered := by
              simp [wf.mem_registered_act_iff live, ends]
            simp [member, gone, ends, event?_of_ends ends, published]
        | false =>
            have here : id ∈ (bus.act action).registered :=
              (wf.mem_registered_act_iff live).mpr ⟨member, ends⟩
            simp [member, here, ends, published_cons]
      · have still : id ∉ (bus.act action).registered := by
          simp [wf.mem_registered_act_iff live, member]
        simp [member, still]

/-! ## A new subscription -/

theorem isLive_subscribe (bus : Bus) : bus.subscribe.2.isLive bus.subscribe.1 = true := by
  have live : (bus.act .subscribe).isLive bus.subscribe.1 = true :=
    isLive_act_iff.mpr (.inr ⟨rfl, rfl⟩)
  exact live

/-- A new subscription lives until it is dropped. -/
theorem isLive_run_subscribe_iff (bus : Bus) {actions : List Action} :
    (bus.subscribe.2.run actions).isLive bus.subscribe.1 = true ↔
      .drop bus.subscribe.1 ∉ actions := by
  rw [isLive_run_iff (Nat.lt_succ_self _)]
  exact and_iff_right bus.isLive_subscribe

section Subscribe

variable (wf : bus.WellFormed)
include wf

theorem WellFormed.not_isLive_new : bus.isLive ⟨bus.nextNumber⟩ = false := by
  rw [← Bool.not_eq_true]
  exact fun live => Nat.lt_irrefl _ (wf.number_of_isLive _ live)

theorem WellFormed.pending_subscribe : bus.subscribe.2.pending bus.subscribe.1 = [] := by
  have missing := wf.not_isLive_new
  rw [isLive_eq, Option.isSome_eq_false_iff, Option.isNone_iff_eq_none] at missing
  rw [pending_eq, mail?_subscribe]
  simp [subscribe, missing]

/-- A new subscriber is registered unless the bus is closed. -/
theorem WellFormed.mem_registered_subscribe_iff :
    bus.subscribe.1 ∈ bus.subscribe.2.registered ↔ bus.closed = false := by
  have new : (⟨bus.nextNumber⟩ : Subscriber) ∉ bus.registered :=
    fun member => Nat.lt_irrefl _ (wf.number_of_registered _ member)
  cases opened : bus.closed <;> simp [subscribe, opened, new]

/-- The holder of a new subscription receives what is published until delivery to it ends. -/
theorem WellFormed.received_subscribe {actions : List Action}
    (stays : .drop bus.subscribe.1 ∉ actions) :
    bus.subscribe.2.received bus.subscribe.1 actions ++
        (bus.subscribe.2.run actions).pending bus.subscribe.1 =
      if bus.closed then []
      else published (actions.takeWhile fun action => !action.ends bus.subscribe.1) := by
  have whole : bus.subscribe.2.WellFormed := wf.act .subscribe
  rw [received_append_pending whole bus.isLive_subscribe stays, wf.pending_subscribe,
    List.nil_append]
  simp only [wf.mem_registered_subscribe_iff]
  cases bus.closed <;> rfl

end Subscribe

/-- The numbers given out in a run are used up. -/
theorem number_of_mem_issued {actions : List Action} (member : id ∈ bus.issued actions) :
    id.number < (bus.run actions).nextNumber := by
  induction actions generalizing bus with
  | nil => exact (List.not_mem_nil member).elim
  | cons action actions ih =>
      rw [issued, List.mem_append] at member
      rcases member with new | later
      · split at new
        next making =>
            subst making
            rw [List.mem_singleton.mp new]
            exact (bus.act .subscribe).nextNumber_le_run actions
        next => exact (List.not_mem_nil new).elim
      · exact ih later

/-! ## What a bus does for its subscribers -/

/-- What holds of the bus after the actions `before`. -/
structure Serves (before : List Action) : Prop where
  /-- The holder of a subscription made now receives, now or later, exactly what is published until
  it is unsubscribed or the bus is closed: each event as often as it is published, and in order. -/
  delivers : ∀ after,
    let opened := (run {} before).subscribe
    .drop opened.1 ∉ after →
      opened.2.received opened.1 after ++ (opened.2.run after).pending opened.1 =
        if .close ∈ before then []
        else published (after.takeWhile fun action => !action.ends opened.1)
  /-- It lives until it is dropped. -/
  lives : ∀ after,
    let opened := (run {} before).subscribe
    (opened.2.run after).isLive opened.1 = true ↔ .drop opened.1 ∉ after
  /-- Its number was never given out before. -/
  fresh : (run {} before).subscribe.1 ∉ issued {} before
  /-- An open bus reaches the registered subscribers whose subscriptions live, and keeps these. -/
  publishes : .close ∉ before → ∀ event,
    let bus := run {} before
    (bus.publish event).1 = (bus.registered.filter bus.isLive).length ∧
      (bus.publish event).2.registered = bus.registered.filter bus.isLive
  rests : .close ∈ before → ∀ event, (run {} before).publish event = (0, run {} before)
  /-- Unsubscribing removes the one subscriber, and says whether it was there. -/
  unsubscribes : ∀ id,
    let bus := run {} before
    (bus.unsubscribe id).1 = decide (id ∈ bus.registered) ∧
      (bus.unsubscribe id).2 = { bus with registered := bus.registered.erase id } ∧
      id ∉ (bus.unsubscribe id).2.registered

theorem serves (before : List Action) : Serves before := by
  have wf := wellFormed_empty.run before
  have closed : (run {} before).closed = true ↔ .close ∈ before := by simp [closed_run_iff]
  exact {
    delivers := by
      intro after opened stays
      simp only [← closed]
      exact wf.received_subscribe stays
    lives := fun after => isLive_run_subscribe_iff _
    fresh := fun member => Nat.lt_irrefl _ (number_of_mem_issued member)
    publishes := by
      intro opened event
      rw [← closed] at opened
      simp [publish, opened]
    rests := by
      intro shut event
      rw [← closed] at shut
      simp [publish, shut]
    unsubscribes := by
      intro id bus
      have erase : bus.registered.filter (· != id) = bus.registered.erase id :=
        (wf.distinct.erase_eq_filter id).symm
      refine ⟨?_, ?_, ?_⟩
      · simp [unsubscribe]
      · simp [unsubscribe, erase]
      · simp [unsubscribe] }

/-- The second subscriber is unsubscribed between two events and can still take the first. -/
example :
    let bus := run {} [.subscribe, .subscribe, .publish (.suspended ⟨1⟩), .poll ⟨0⟩,
      .unsubscribe ⟨1⟩, .publish (.contentChanged ⟨1⟩)]
    bus.pending ⟨0⟩ = [.contentChanged ⟨1⟩] ∧ bus.pending ⟨1⟩ = [.suspended ⟨1⟩] := by
  decide

end MemoryPane.Bus
