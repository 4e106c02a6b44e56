import MemoryPane.Proofs.Bus.Run
import MemoryPane.Proofs.Tab.Batch

/-!
A tab in use. Besides what happens to a tab, a `Session` has the bus that the tab subscribed to, so
that a run says what becomes of both. The tab's part of a run is a run of the tab's pane
(`exists_run_pane`), and the bus's part one of the bus (`exists_run_bus`). From its opening on, the
tab either holds the subscription that was made for it, or has dropped it (`Follows`).
-/

namespace MemoryPane.Tab

variable {σ η : Type}

/-- A tab in use, and the bus of its workspace. -/
structure Session (σ η : Type) where
  tab : Tab σ η
  bus : Bus

namespace Session

/-- What can happen to a tab in use, with the environment as it is at that moment. -/
inductive Action (σ η : Type) where
  | load (env : σ)
  | setEnabled (enabled : Bool) (env : σ)
  | catchUp (env : σ)
  | setLabel (label : String)
  | close
  /-- Closes the tab with the bus of another workspace. To its own bus this is no more than
  `dispose`. -/
  | closeElsewhere
  | dispose
  | onPane (action : Pane.Action σ η)
  /-- Something that others do with the bus. -/
  | onBus (action : Bus.Action)

variable [Host η]

/-- The session after an action. -/
def act (session : Session σ η) : Action σ η → Session σ η
  | .load env => { session with tab := (session.tab.load env).2.1 }
  | .setEnabled enabled env => { session with tab := (session.tab.setEnabled enabled env).2.1 }
  | .catchUp env =>
    let (_, tab, bus, _) := session.tab.catchUp session.bus env
    { tab, bus }
  | .setLabel label => { session with tab := { session.tab with label } }
  | .close =>
    let (tab, bus) := session.tab.close session.bus
    { tab, bus }
  | .closeElsewhere | .dispose =>
    let (tab, bus) := session.tab.dispose session.bus
    { tab, bus }
  | .onPane action =>
    { session with tab := { session.tab with pane := session.tab.pane.act action } }
  | .onBus action => { session with bus := session.bus.act action }

/-- The session after a sequence of actions. -/
def run (session : Session σ η) (actions : List (Action σ η)) : Session σ η :=
  actions.foldl act session

@[simp] theorem run_cons (session : Session σ η) (action : Action σ η)
    (actions : List (Action σ η)) :
    session.run (action :: actions) = (session.act action).run actions := rfl

/-- The session begins with the opening of its tab, on a bus in any state, as the subscriber
`id`. -/
def Opened (session : Session σ η) (id : Subscriber) : Prop :=
  ∃ (workspace : Workspace) (source : Source σ) (host : η) (renderingId : String) (env : σ)
    (before : List Bus.Action),
    workspace.bus = Bus.run {} before ∧ workspace.bus.subscribe.1 = id ∧
      (create workspace source host renderingId env).1 = .ok session.tab ∧
      (create workspace source host renderingId env).2.bus = session.bus

/-! ## The two parts of a run -/

theorem exists_run_pane (session : Session σ η) (action : Action σ η) :
    ∃ actions, (session.act action).tab.pane = session.tab.pane.run actions := by
  obtain ⟨tab, bus⟩ := session
  cases action with
  | load env => exact tab.exists_run_pane (.load env)
  | setEnabled enabled env => exact tab.exists_run_pane (.setEnabled enabled env)
  | catchUp env => exact tab.exists_run_pane (.catchUp bus env)
  | setLabel label => exact tab.exists_run_pane (.setLabel label)
  | close => exact tab.exists_run_pane (.close bus)
  | closeElsewhere | dispose => exact tab.exists_run_pane (.dispose bus)
  | onPane action => exact tab.exists_run_pane (.onPane action)
  | onBus action => exact ⟨[], rfl⟩

/-- What the tab does to the bus, others might do. -/
theorem exists_run_bus (session : Session σ η) (action : Action σ η) :
    ∃ actions, (session.act action).bus = session.bus.run actions := by
  obtain ⟨tab, bus⟩ := session
  cases action with
  | load | setEnabled | setLabel | onPane => exact ⟨[], rfl⟩
  | catchUp env =>
      cases subscribed : tab.subscription with
      | none => exact ⟨[], by simp [act, Tab.catchUp, subscribed]⟩
      | some id =>
          show ∃ actions, (tab.catchUp bus env).2.2.1 = bus.run actions
          rcases subscription_catchUp subscribed bus env with ⟨-, eq⟩ | ⟨-, eq⟩
          · exact ⟨[.drain id], eq⟩
          · exact ⟨[.drain id, .drop id], eq⟩
  | close =>
      cases subscribed : tab.subscription with
      | none => exact ⟨[], by simp [act, Tab.close, Tab.dispose, subscribed]⟩
      | some id => exact ⟨[.unsubscribe id, .drop id],
          by simp [act, Tab.close, Tab.dispose, subscribed, Bus.act]⟩
  | closeElsewhere | dispose =>
      cases subscribed : tab.subscription with
      | none => exact ⟨[], by simp [act, Tab.dispose, subscribed]⟩
      | some id => exact ⟨[.drop id], by simp [act, Tab.dispose, subscribed, Bus.act]⟩
  | onBus action => exact ⟨[action], rfl⟩

/-! ## The subscription of the tab -/

/-- What others do with the bus in an action. -/
def Action.onBus? : Action σ η → Option Bus.Action
  | .onBus action => some action
  | _ => none

/-- A tab without a subscription leaves the bus to the others, and stays without one. -/
theorem act_of_unsubscribed {session : Session σ η} (unsubscribed : session.tab.subscription = none)
    (action : Action σ η) :
    (session.act action).tab.subscription = none ∧
      (session.act action).bus = session.bus.run action.onBus?.toList := by
  obtain ⟨tab, bus⟩ := session
  have unsubscribed : tab.subscription = none := unsubscribed
  cases action with
  | load | setLabel | onPane => exact ⟨unsubscribed, rfl⟩
  | setEnabled enabled env =>
      refine ⟨?_, rfl⟩
      simp only [act, setEnabled]
      split <;> exact unsubscribed
  | catchUp env => simp [act, Tab.catchUp, unsubscribed, Action.onBus?]
  | close => simp [act, Tab.close, Tab.dispose, unsubscribed, Action.onBus?]
  | closeElsewhere | dispose => simp [act, Tab.dispose, unsubscribed, Action.onBus?]
  | onBus action => exact ⟨unsubscribed, rfl⟩

/-- A tab keeps its subscription or drops it. -/
theorem subscription_act {session : Session σ η} {id : Subscriber}
    (subscribed : session.tab.subscription = some id) (action : Action σ η) :
    (session.act action).tab.subscription = some id ∨
      ((session.act action).tab.subscription = none ∧
        (session.act action).bus.isLive id = false) := by
  obtain ⟨tab, bus⟩ := session
  have subscribed : tab.subscription = some id := subscribed
  cases action with
  | load | setLabel | onPane | onBus => exact .inl subscribed
  | setEnabled enabled env =>
      left
      simp only [act, setEnabled]
      split <;> exact subscribed
  | catchUp env =>
      rcases subscription_catchUp subscribed bus env with ⟨kept, -⟩ | ⟨gone, eq⟩
      · exact .inl kept
      · refine .inr ⟨gone, ?_⟩
        show (tab.catchUp bus env).2.2.1.isLive id = false
        rw [eq, Bus.isLive_drop]
  | close => exact .inr (by simp [act, Tab.close, Tab.dispose, subscribed])
  | closeElsewhere | dispose => exact .inr (by simp [act, Tab.dispose, subscribed])

/-- The tab has been the subscriber `id` of its bus from its opening on, and no other. -/
structure Follows (session : Session σ η) (id : Subscriber) : Prop where
  wellFormed : session.bus.WellFormed
  made : id.number < session.bus.nextNumber
  subscription :
    session.tab.subscription = some id ∨
      (session.tab.subscription = none ∧ session.bus.isLive id = false)

variable {session : Session σ η} {id : Subscriber}

theorem Follows.act (follows : session.Follows id) (action : Action σ η) :
    (session.act action).Follows id := by
  obtain ⟨actions, eq⟩ := session.exists_run_bus action
  refine ⟨?_, ?_, ?_⟩
  · rw [eq]
    exact follows.wellFormed.run actions
  · rw [eq]
    exact Nat.lt_of_lt_of_le follows.made (session.bus.nextNumber_le_run actions)
  · rcases follows.subscription with kept | ⟨dropped, gone⟩
    · exact subscription_act kept action
    · refine .inr ⟨(act_of_unsubscribed dropped action).1, ?_⟩
      rw [eq]
      exact Bus.isLive_run_of_dropped follows.made gone actions

theorem Follows.run (follows : session.Follows id) (actions : List (Action σ η)) :
    (session.run actions).Follows id := by
  induction actions generalizing session with
  | nil => exact follows
  | cons action actions ih => exact ih (follows.act action)

omit [Host η] in
theorem Opened.follows (opened : session.Opened id) : session.Follows id := by
  obtain ⟨workspace, source, host, renderingId, env, before, bus, rfl, created, left⟩ := opened
  have wf : workspace.bus.WellFormed := bus ▸ Bus.wellFormed_empty.run before
  obtain ⟨subscribed, eq⟩ := subscription_of_create created
  rw [eq] at left
  exact {
    wellFormed := left ▸ wf.act .subscribe
    made := left ▸ Nat.lt_succ_self _
    subscription := .inl subscribed }

end Session

end MemoryPane.Tab
