import MemoryPane.Proofs.Pane.Run
import MemoryPane.Tab

/-!
Runs of a tab. Whatever is done to a tab or to the pane in it, the pane goes through a run of its
own (`exists_run_pane`), so that the pane of a reachable tab is reachable, and what holds of every
reachable pane holds of it.
-/

namespace MemoryPane.Tab

variable {σ η : Type}

/-- What can happen to a tab, with the bus and the environment as they are at that moment. -/
inductive Action (σ η : Type) where
  | load (env : σ)
  | setEnabled (enabled : Bool) (env : σ)
  | catchUp (bus : Bus) (env : σ)
  | setLabel (label : String)
  | close (bus : Bus)
  | dispose (bus : Bus)
  /-- Something done to the pane itself. -/
  | onPane (action : Pane.Action σ η)

variable [Host η]

/-- The tab after an action. -/
def act (tab : Tab σ η) : Action σ η → Tab σ η
  | .load env => (tab.load env).2.1
  | .setEnabled enabled env => (tab.setEnabled enabled env).2.1
  | .catchUp bus env => (tab.catchUp bus env).2.1
  | .setLabel label => { tab with label }
  | .close bus => (tab.close bus).1
  | .dispose bus => (tab.dispose bus).1
  | .onPane action => { tab with pane := tab.pane.act action }

/-- The tab after a sequence of actions. -/
def run (tab : Tab σ η) (actions : List (Action σ η)) : Tab σ η := actions.foldl act tab

/-- Some sequence of actions leads from a newly opened tab to this one. -/
def Reachable (tab : Tab σ η) : Prop :=
  ∃ workspace source host renderingId env start actions,
    (create workspace source host renderingId env).1 = .ok start ∧ start.run actions = tab

theorem Reachable.run {tab : Tab σ η} (reach : tab.Reachable) (actions : List (Action σ η)) :
    (tab.run actions).Reachable := by
  obtain ⟨workspace, source, host, renderingId, env, start, before, created, rfl⟩ := reach
  exact ⟨workspace, source, host, renderingId, env, start, before ++ actions, created,
    List.foldl_append⟩

/-! ## The pane of a tab -/

theorem exists_run_digest (enabled : Bool) (env : σ) (events : List Event) (pane : Pane σ η) :
    ∃ actions, (digest enabled env events pane).2 = pane.run actions := by
  induction events generalizing pane with
  | nil => exact ⟨[], rfl⟩
  | cons event events ih =>
      rw [digest]
      split
      · exact ih pane
      · dsimp only
        split
        · exact ⟨[.handle event env], rfl⟩
        · rcases ih (pane.handle event env).2 with ⟨actions, eq⟩
          exact ⟨.handle event env :: actions, eq⟩

theorem exists_run_catchUp (tab : Tab σ η) (bus : Bus) (env : σ) :
    ∃ actions, (tab.catchUp bus env).2.1.pane = tab.pane.run actions := by
  unfold catchUp
  split
  · exact ⟨[], rfl⟩
  next id _ =>
      rcases exists_run_digest tab.enabled env (bus.drain id).1 tab.pane with ⟨actions, eq⟩
      dsimp only
      split
      · refine ⟨actions ++ [.dispose], ?_⟩
        rw [Pane.run_append, ← eq]
        rfl
      · split
        · refine ⟨actions ++ [.loadView env], ?_⟩
          rw [Pane.run_append, ← eq]
          rfl
        · exact ⟨actions, eq⟩

/-- Whatever happens to a tab is a run of its pane. -/
theorem exists_run_pane (tab : Tab σ η) (action : Action σ η) :
    ∃ actions, (tab.act action).pane = tab.pane.run actions := by
  cases action with
  | load env => exact ⟨[.loadView env], rfl⟩
  | setEnabled enabled env =>
      unfold act setEnabled
      dsimp only
      split
      · exact ⟨[], rfl⟩
      · exact ⟨[.settle, .loadView env], rfl⟩
  | catchUp bus env => exact tab.exists_run_catchUp bus env
  | setLabel label => exact ⟨[], rfl⟩
  | close bus => exact ⟨[.dispose], rfl⟩
  | dispose bus => exact ⟨[.dispose], rfl⟩
  | onPane action => exact ⟨[action], rfl⟩

/-- What comes of opening a tab, and what becomes of the workspace. -/
inductive Opened (workspace : Workspace) (source : Source σ) (host : η) (renderingId : String) :
    Except Failure (Tab σ η) × Workspace → Prop
  /-- There is no such rendering, and nothing was done. -/
  | unknown {failure : Failure} : workspace.catalog.obtain renderingId = .error failure →
      Opened workspace source host renderingId (.error failure, workspace)
  /-- The rendering is there, but the layout does not fit the source. -/
  | unfit {made : Instance} {catalog : Catalog} {failure : Failure} :
      workspace.catalog.obtain renderingId = .ok (made, catalog) →
      Pane.create source host workspace.layout workspace.viewport = .error failure →
      Opened workspace source host renderingId (.error failure, { workspace with catalog })
  | opened {made : Instance} {catalog : Catalog} {tab : Tab σ η} :
      workspace.catalog.obtain renderingId = .ok (made, catalog) →
      Pane.create source host workspace.layout workspace.viewport = .ok tab.pane →
      tab.subscription = some workspace.bus.subscribe.1 →
      Opened workspace source host renderingId
        (.ok tab, { workspace with catalog, bus := workspace.bus.subscribe.2 })

section Opening

variable {workspace : Workspace} {source : Source σ} {host : η} {renderingId : String} {env : σ}
  {start : Tab σ η}

omit [Host η] in
theorem opened (workspace : Workspace) (source : Source σ) (host : η) (renderingId : String)
    (env : σ) :
    Opened workspace source host renderingId (create workspace source host renderingId env) := by
  unfold create
  split
  next failure unknown => exact .unknown unknown
  next made catalog found =>
      dsimp only
      split
      next failure unfit => exact .unfit found unfit
      next pane fits => exact .opened found fits rfl

omit [Host η] in
/-- A newly opened tab holds a newly created pane. -/
theorem create_eq_ok (created : (create workspace source host renderingId env).1 = .ok start) :
    Pane.create source host workspace.layout workspace.viewport = .ok start.pane := by
  have result := opened workspace source host renderingId env
  generalize create workspace source host renderingId env = answer at result created
  cases result with
  | unknown | unfit => contradiction
  | opened found fits subscribed => exact Except.ok.inj created ▸ fits

omit [Host η] in
/-- Opening a tab makes one subscription. -/
theorem subscription_of_create
    (created : (create workspace source host renderingId env).1 = .ok start) :
    start.subscription = some workspace.bus.subscribe.1 ∧
      (create workspace source host renderingId env).2.bus = workspace.bus.subscribe.2 := by
  have result := opened workspace source host renderingId env
  generalize create workspace source host renderingId env = answer at result created ⊢
  cases result with
  | unknown | unfit => contradiction
  | opened found fits subscribed => exact ⟨Except.ok.inj created ▸ subscribed, rfl⟩

end Opening

theorem Reachable.pane {tab : Tab σ η} (reach : tab.Reachable) : tab.pane.Reachable := by
  obtain ⟨workspace, source, host, renderingId, env, start, actions, created, rfl⟩ := reach
  have fresh : start.pane.Reachable :=
    ⟨source, host, workspace.layout, workspace.viewport, start.pane, [], create_eq_ok created, rfl⟩
  clear created
  induction actions generalizing start with
  | nil => exact fresh
  | cons action actions ih =>
      rcases start.exists_run_pane action with ⟨steps, eq⟩
      apply ih (start.act action)
      rw [eq]
      exact fresh.run steps

/-! ## A tab to try things on -/

namespace Sample

def workspace : Workspace where
  preferences := {}
  catalog := { Catalog.standard with declarations := Catalog.standardDeclarations }

/-- A view of two lines. -/
def viewport : Viewport := { visibleLines := 2, margin := 0 }

/-- A tab that has loaded the image. -/
def tab : Tab Image Recorder where
  pane := ({ Pane.Sample.pane with viewport }.loadView Pane.Sample.image).2.1
  rendering := .hex "hex" "Hex" 4
  label := "0x1000 <Hex>"
  subscription := some ⟨0⟩

theorem reachable_tab : tab.Reachable :=
  ⟨workspace, Pane.Sample.source, {}, "hex", Pane.Sample.image,
    { tab with pane := Pane.Sample.pane },
    [.onPane (.setViewport viewport), .load Pane.Sample.image], rfl, rfl⟩

end Sample

end MemoryPane.Tab
