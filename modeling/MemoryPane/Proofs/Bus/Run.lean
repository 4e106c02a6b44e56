import MemoryPane.Bus

/-!
Runs of a bus. An `Action` is anything that a publisher or the holder of a subscription may do, and
a run is any sequence of them.

All that a subscription can see of the bus is what waits in its mailbox: `Bus.mail?` says it, or
`none` once the subscription was dropped, and one lemma for each operation says what becomes of it.
`Bus.WellFormed` holds of every bus that a run leaves (`WellFormed.run`).
-/

namespace MemoryPane.Bus

/-- What can happen to a bus and to the subscriptions to it. -/
inductive Action where
  | subscribe
  | unsubscribe (id : Subscriber)
  | publish (event : Event)
  | close
  | drop (id : Subscriber)
  | poll (id : Subscriber)
  | wait (id : Subscriber)
  | drain (id : Subscriber)
  deriving DecidableEq

/-- The bus after an action. -/
def act (bus : Bus) : Action → Bus
  | .subscribe => bus.subscribe.2
  | .unsubscribe id => (bus.unsubscribe id).2
  | .publish event => (bus.publish event).2
  | .close => bus.close
  | .drop id => bus.drop id
  | .poll id => (bus.poll id).2
  | .wait id => (bus.wait id).2
  | .drain id => (bus.drain id).2

/-- The bus after a sequence of actions. -/
def run (bus : Bus) (actions : List Action) : Bus := actions.foldl act bus

@[simp] theorem run_nil (bus : Bus) : bus.run [] = bus := rfl

@[simp] theorem run_cons (bus : Bus) (action : Action) (actions : List Action) :
    bus.run (action :: actions) = (bus.act action).run actions := rfl

/-! ## What waits for a subscription -/

/-- What waits for the subscription of `id`, if it exists. -/
def mail? (bus : Bus) (id : Subscriber) : Option (List Event) :=
  (bus.mailboxes.find? fun box => box.owner == id).map Mailbox.pending

theorem isLive_eq (bus : Bus) (id : Subscriber) : bus.isLive id = (bus.mail? id).isSome := by
  rw [isLive, mail?, Option.isSome_map, Bool.eq_iff_iff, List.find?_isSome, List.any_eq_true]

theorem pending_eq (bus : Bus) (id : Subscriber) : bus.pending id = (bus.mail? id).getD [] := by
  unfold pending mail?
  cases bus.mailboxes.find? fun box => box.owner == id <;> rfl

/-- Changing what is in the mailboxes, but not whose they are. -/
theorem find?_map_of_owner {f : Mailbox → Mailbox} (keeps : ∀ box, (f box).owner = box.owner)
    (boxes : List Mailbox) (id : Subscriber) :
    (boxes.map f).find? (fun box => box.owner == id) =
      (boxes.find? fun box => box.owner == id).map f := by
  rw [List.find?_map]
  simp only [Function.comp_def, keeps]

theorem owner_of_find? {boxes : List Mailbox} {id : Subscriber} {box : Mailbox}
    (found : (boxes.find? fun box => box.owner == id) = some box) : box.owner = id := by
  simpa using List.find?_some found

variable (bus : Bus) (id : Subscriber)

theorem mail?_subscribe :
    bus.subscribe.2.mail? id =
      (bus.mail? id).or (if id = ⟨bus.nextNumber⟩ then some [] else none) := by
  rw [mail?, subscribe, List.find?_append, Option.map_or, List.find?_singleton]
  by_cases new : id = ⟨bus.nextNumber⟩
  · simp [mail?, new]
  · simp [mail?, new, Ne.symm new]

@[simp] theorem mail?_unsubscribe (other : Subscriber) :
    (bus.unsubscribe other).2.mail? id = bus.mail? id := rfl

@[simp] theorem mail?_close : bus.close.mail? id = bus.mail? id := rfl

theorem mail?_drop (other : Subscriber) :
    (bus.drop other).mail? id = if id = other then none else bus.mail? id := by
  rw [mail?, drop, List.find?_filter]
  split
  next same =>
      rw [List.find?_eq_none.mpr (by simp [same]), Option.map_none]
  next apart =>
      rw [mail?]
      congr 2
      funext box
      grind

@[simp] theorem isLive_drop : (bus.drop id).isLive id = false := by
  rw [isLive_eq, mail?_drop, if_pos rfl]
  rfl

theorem mail?_setPending (other : Subscriber) (events : List Event) :
    (bus.setPending other events).mail? id =
      if id = other then (bus.mail? id).map fun _ => events else bus.mail? id := by
  rw [mail?, setPending, find?_map_of_owner (by intro box; split <;> rfl), mail?]
  cases found : bus.mailboxes.find? fun box => box.owner == id with
  | none => simp
  | some box =>
      have owner := owner_of_find? found
      by_cases same : id = other <;> simp [owner, same]

theorem mail?_publish (event : Event) :
    (bus.publish event).2.mail? id =
      if bus.closed = false ∧ id ∈ bus.registered then (bus.mail? id).map (· ++ [event])
      else bus.mail? id := by
  unfold publish
  split
  next closed => simp [closed]
  next opened =>
      dsimp only
      rw [mail?, find?_map_of_owner (by intro box; split <;> rfl), mail?]
      cases found : bus.mailboxes.find? fun box => box.owner == id with
      | none => simp
      | some box =>
          have owner := owner_of_find? found
          have live : bus.isLive id = true := by rw [isLive_eq, mail?, found]; rfl
          by_cases member : id ∈ bus.registered <;> simp [owner, opened, live, member]

theorem mail?_poll (other : Subscriber) :
    (bus.poll other).2.mail? id =
      if id = other then (bus.mail? id).map List.tail else bus.mail? id := by
  by_cases same : id = other
  · subst same
    rw [if_pos rfl]
    unfold poll
    cases found : bus.mail? id with
    | none => simp [pending_eq, found]
    | some events =>
        cases events with
        | nil => simp [pending_eq, found]
        | cons event rest => simp [pending_eq, found, mail?_setPending]
  · rw [if_neg same]
    unfold poll
    split
    · rfl
    · rw [mail?_setPending, if_neg same]

theorem mail?_drain (other : Subscriber) :
    (bus.drain other).2.mail? id =
      if id = other then (bus.mail? id).map fun _ => [] else bus.mail? id :=
  bus.mail?_setPending id other []

/-! ## The invariant -/

structure WellFormed (bus : Bus) : Prop where
  /-- Numbers still to be given out belong to no subscription, -/
  number_of_isLive : ∀ id, bus.isLive id = true → id.number < bus.nextNumber
  /-- and to no registered subscriber. -/
  number_of_registered : ∀ id ∈ bus.registered, id.number < bus.nextNumber
  distinct : bus.registered.Nodup
  closed : bus.closed = true → bus.registered = []

variable {bus} {id}

theorem wellFormed_empty : WellFormed {} where
  number_of_isLive := by simp [isLive]
  number_of_registered := by simp
  distinct := List.nodup_nil
  closed := fun _ => rfl

/-- No action but `subscribe` gives out a number. -/
theorem nextNumber_act (bus : Bus) (action : Action) :
    (bus.act action).nextNumber =
      if action = .subscribe then bus.nextNumber + 1 else bus.nextNumber := by
  cases action with
  | subscribe | unsubscribe | close | drop | drain => rfl
  | publish event =>
      simp only [act, publish]
      split <;> rfl
  | poll id | wait id =>
      simp only [act, wait, poll]
      split <;> rfl

theorem nextNumber_le_act (bus : Bus) (action : Action) :
    bus.nextNumber ≤ (bus.act action).nextNumber := by
  rw [nextNumber_act]
  split
  · exact Nat.le_succ _
  · exact Nat.le_refl _

theorem nextNumber_le_run (bus : Bus) (actions : List Action) :
    bus.nextNumber ≤ (bus.run actions).nextNumber := by
  induction actions generalizing bus with
  | nil => exact Nat.le_refl _
  | cons action actions ih => exact Nat.le_trans (bus.nextNumber_le_act action) (ih _)

/-- Only `drop` ends a subscription, and only `subscribe` makes one. -/
theorem isLive_act_iff {action : Action} :
    (bus.act action).isLive id = true ↔
      bus.isLive id = true ∧ action ≠ .drop id ∨
        action = .subscribe ∧ id = ⟨bus.nextNumber⟩ := by
  rw [isLive_eq, isLive_eq]
  cases action with
  | subscribe => by_cases new : id = ⟨bus.nextNumber⟩ <;> simp [act, mail?_subscribe, new]
  | unsubscribe | close => simp [act]
  | publish event =>
      rw [act, mail?_publish]
      split <;> simp
  | drop other =>
      rw [act, mail?_drop]
      by_cases same : id = other
      · simp [same]
      · simp [same, Ne.symm same]
  | poll other | wait other =>
      show ((bus.poll other).2.mail? id).isSome = true ↔ _
      rw [mail?_poll]
      split <;> simp
  | drain other =>
      rw [act, mail?_drain]
      split <;> simp

/-- The subscribers that are registered after an action. -/
theorem registered_act (bus : Bus) (action : Action) :
    (bus.act action).registered =
      match action with
      | .subscribe => if bus.closed then bus.registered else bus.registered ++ [⟨bus.nextNumber⟩]
      | .unsubscribe id => bus.registered.filter (· != id)
      | .publish _ => if bus.closed then bus.registered else bus.registered.filter bus.isLive
      | .close => []
      | _ => bus.registered := by
  cases action with
  | subscribe | unsubscribe | close | drop | drain => rfl
  | publish event =>
      simp only [act, publish]
      split <;> rfl
  | poll id | wait id =>
      simp only [act, wait, poll]
      split <;> rfl

/-- Only `close` closes a bus. -/
theorem closed_act_iff {action : Action} :
    (bus.act action).closed = true ↔ bus.closed = true ∨ action = .close := by
  cases action with
  | subscribe | unsubscribe | drop | drain => exact (or_iff_left (by simp)).symm
  | close => exact iff_of_true rfl (.inr rfl)
  | publish event =>
      simp only [act, publish]
      split <;> simp [*]
  | poll id | wait id =>
      simp only [act, wait, poll]
      split <;> exact (or_iff_left (by simp)).symm

/-- The action ends all delivery to `id`. -/
def Action.ends (id : Subscriber) (action : Action) : Bool :=
  action == .unsubscribe id || action == .close

/-- A subscriber stays registered until an action ends delivery to it, or an event finds its
subscription gone. -/
theorem mem_registered_act_iff {action : Action} :
    id ∈ (bus.act action).registered ↔
      id ∈ bus.registered ∧ action.ends id = false ∧
          (∀ event, action = .publish event → bus.closed = true ∨ bus.isLive id = true) ∨
        action = .subscribe ∧ bus.closed = false ∧ id = ⟨bus.nextNumber⟩ := by
  rw [registered_act]
  cases action with
  | subscribe => cases opened : bus.closed <;> simp [Action.ends]
  | unsubscribe other =>
      have flip : other = id ↔ id = other := eq_comm
      simp [Action.ends, flip]
  | publish event => cases opened : bus.closed <;> simp [Action.ends]
  | close => simp [Action.ends]
  | drop | poll | wait | drain => simp [Action.ends]

namespace WellFormed

/-- Every action keeps the invariant. -/
theorem act (wf : bus.WellFormed) (action : Action) : (bus.act action).WellFormed where
  number_of_isLive := by
    intro id live
    rcases isLive_act_iff.mp live with ⟨before, -⟩ | ⟨rfl, rfl⟩
    · exact Nat.lt_of_lt_of_le (wf.number_of_isLive id before) (bus.nextNumber_le_act action)
    · exact Nat.lt_succ_self _
  number_of_registered := by
    intro id member
    rcases mem_registered_act_iff.mp member with ⟨before, -⟩ | ⟨rfl, -, rfl⟩
    · exact Nat.lt_of_lt_of_le (wf.number_of_registered id before) (bus.nextNumber_le_act action)
    · exact Nat.lt_succ_self _
  distinct := by
    rw [registered_act]
    cases action with
    | subscribe =>
        dsimp only
        split
        · exact wf.distinct
        · refine List.nodup_append.mpr ⟨wf.distinct, List.pairwise_singleton _ _, ?_⟩
          rintro id member _ new rfl
          have known := wf.number_of_registered id member
          rw [List.mem_singleton.mp new] at known
          exact Nat.lt_irrefl _ known
    | unsubscribe => exact wf.distinct.filter _
    | publish =>
        dsimp only
        split
        · exact wf.distinct
        · exact wf.distinct.filter _
    | close => exact List.nodup_nil
    | drop | poll | wait | drain => exact wf.distinct
  closed := by
    intro closed
    rw [List.eq_nil_iff_forall_not_mem]
    intro id member
    rcases closed_act_iff.mp closed with before | rfl
    · rcases mem_registered_act_iff.mp member with ⟨inside, -⟩ | ⟨-, opened, -⟩
      · rw [wf.closed before] at inside
        exact List.not_mem_nil inside
      · rw [before] at opened
        contradiction
    · exact List.not_mem_nil member

theorem run (wf : bus.WellFormed) (actions : List Action) : (bus.run actions).WellFormed := by
  induction actions generalizing bus with
  | nil => exact wf
  | cons action actions ih => exact ih (wf.act action)

end WellFormed

/-- A number that was given out is not given out again. -/
theorem ne_new (made : id.number < bus.nextNumber) : id ≠ ⟨bus.nextNumber⟩ :=
  fun new => Nat.lt_irrefl _ (new ▸ made)

/-- A subscription that was made lives until it is dropped, and is never made again. -/
theorem isLive_run_iff (made : id.number < bus.nextNumber) {actions : List Action} :
    (bus.run actions).isLive id = true ↔ bus.isLive id = true ∧ .drop id ∉ actions := by
  induction actions generalizing bus with
  | nil => simp
  | cons action actions ih =>
      have old := ne_new made
      rw [run_cons, ih (Nat.lt_of_lt_of_le made (bus.nextNumber_le_act action)), isLive_act_iff,
        List.mem_cons, not_or, and_assoc.symm, eq_comm (a := Action.drop id)]
      simp [old]

theorem closed_run_iff {actions : List Action} :
    (bus.run actions).closed = true ↔ bus.closed = true ∨ .close ∈ actions := by
  induction actions generalizing bus with
  | nil => simp
  | cons action actions ih =>
      rw [run_cons, ih, closed_act_iff, List.mem_cons, or_assoc, eq_comm (a := action)]

/-- A subscriber whose subscription exists is registered until an action ends delivery to it. -/
theorem WellFormed.mem_registered_act_iff (wf : bus.WellFormed) (live : bus.isLive id = true)
    {action : Action} :
    id ∈ (bus.act action).registered ↔ id ∈ bus.registered ∧ action.ends id = false := by
  rw [Bus.mem_registered_act_iff]
  constructor
  · rintro (⟨member, stays, -⟩ | ⟨-, -, rfl⟩)
    · exact ⟨member, stays⟩
    · exact (Nat.lt_irrefl _ (wf.number_of_isLive _ live)).elim
  · rintro ⟨member, stays⟩
    exact .inl ⟨member, stays, fun _ _ => .inr live⟩

/-! ## Subscribers that have gone -/

/-- An event finds a dropped subscription gone, and the bus forgets the subscriber. -/
theorem WellFormed.not_mem_registered_publish (wf : bus.WellFormed)
    (dropped : bus.isLive id = false) (event : Event) :
    id ∉ (bus.act (.publish event)).registered := by
  rw [Bus.mem_registered_act_iff]
  rintro (⟨member, -, reached⟩ | ⟨new, -⟩)
  · rcases reached event rfl with closed | live
    · rw [wf.closed closed] at member
      exact List.not_mem_nil member
    · rw [dropped] at live
      contradiction
  · contradiction

section Made

variable (made : id.number < bus.nextNumber)
include made

/-- A subscriber that is not registered any more never is again. -/
theorem not_mem_registered_run (gone : id ∉ bus.registered) (actions : List Action) :
    id ∉ (bus.run actions).registered := by
  induction actions generalizing bus with
  | nil => exact gone
  | cons action actions ih =>
      apply ih (Nat.lt_of_lt_of_le made (bus.nextNumber_le_act action))
      simp [mem_registered_act_iff, gone, ne_new made]

/-- A dropped subscription stays so. -/
theorem isLive_run_of_dropped (dropped : bus.isLive id = false) (actions : List Action) :
    (bus.run actions).isLive id = false := by
  rw [← Bool.not_eq_true, isLive_run_iff made]
  simp [dropped]

/-- A dropped subscription is forgotten at the next publication, and for good. -/
theorem WellFormed.not_mem_registered_run_of_publish (wf : bus.WellFormed)
    (dropped : bus.isLive id = false) {event : Event} {actions : List Action}
    (published : .publish event ∈ actions) : id ∉ (bus.run actions).registered := by
  induction actions generalizing bus with
  | nil => exact (List.not_mem_nil published).elim
  | cons action actions ih =>
      have still := Nat.lt_of_lt_of_le made (bus.nextNumber_le_act action)
      rcases List.mem_cons.mp published with rfl | later
      · exact not_mem_registered_run still (wf.not_mem_registered_publish dropped event) actions
      · exact ih still (wf.act action) (isLive_run_of_dropped made dropped [action]) later

end Made

end MemoryPane.Bus
