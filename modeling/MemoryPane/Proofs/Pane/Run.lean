import MemoryPane.Pane.Refresh
import MemoryPane.Proofs.Pane.Load
import MemoryPane.Source.Image

/-!
Runs of a pane. An `Action` is one thing that can happen to a pane, together with the environment in
which it happens: between two actions the content of memory, the state of the target and the
failures still to come may have become anything. What a source declares about itself stays.

`Transition` says in six cases all that one action can do to the lines of a pane, and
`transition_act` that every action does one of them; invariants are proved by these six cases.
-/

namespace MemoryPane

/-- A line whose change states can be relied on from now on. -/
def Line.rely (line : Line) : Line := { line with reliable := true }

@[simp] theorem Line.address_rely (line : Line) : line.rely.address = line.address := rfl

namespace Pane

variable {σ η : Type}

/-- What can happen to a pane. -/
inductive Action (σ η : Type) where
  | loadAt (start : Address) (lines : Nat) (afresh : Bool) (env : σ)
  | loadView (env : σ)
  | refresh (env : σ)
  | handle (event : Event) (env : σ)
  | settle
  | clearSnapshot
  | dispose
  | setViewport (viewport : Viewport)
  | setHost (host : η)

/-- The environment in which the action happens, if it matters. -/
def Action.env? : Action σ η → Option σ
  | .loadAt _ _ _ env | .loadView env | .refresh env | .handle _ env => some env
  | _ => none

variable [Host η]

/-- The pane after an action. -/
def act (pane : Pane σ η) : Action σ η → Pane σ η
  | .loadAt start lines afresh env => (pane.loadAt start lines afresh env).2.1
  | .loadView env => (pane.loadView env).2.1
  | .refresh env => (pane.refresh env).2
  | .handle event env => (pane.handle event env).2
  | .settle => pane.settle
  | .clearSnapshot => pane.clearSnapshot
  | .dispose => pane.dispose
  | .setViewport viewport => { pane with viewport }
  | .setHost host => { pane with host }

/-- The pane after a sequence of actions. -/
def run (pane : Pane σ η) (actions : List (Action σ η)) : Pane σ η := actions.foldl act pane

@[simp] theorem run_cons (pane : Pane σ η) (action : Action σ η) (actions : List (Action σ η)) :
    pane.run (action :: actions) = (pane.act action).run actions := rfl

theorem run_append (pane : Pane σ η) (first second : List (Action σ η)) :
    pane.run (first ++ second) = (pane.run first).run second :=
  List.foldl_append

/-- How an action ends that loads. -/
def outcome? (pane : Pane σ η) : Action σ η → Option LoadResult
  | .loadAt start lines afresh env => some (pane.loadAt start lines afresh env).1
  | .loadView env => some (pane.loadView env).1
  | _ => none

/-- The action asks to compare every byte anew. -/
def asksAfresh (pane : Pane σ η) : Action σ η → Bool
  | .loadAt _ _ afresh _ => afresh
  | .loadView _ => pane.viewport.afresh
  | _ => false

omit [Host η] in
/-- A pane is created exactly if the layout can be used with the unit that the source declares. -/
theorem create_eq_ok_iff {source : Source σ} {host : η} {layout : Layout} {viewport : Viewport}
    {pane : Pane σ η} :
    create source host layout viewport = .ok pane ↔
      (effectiveLayout source layout).Usable ∧
        { source, host, layout := effectiveLayout source layout, viewport } = pane := by
  rw [← Layout.check_eq_ok_iff]
  cases checked : (effectiveLayout source layout).check <;>
    simp [create, checked, bind, Except.bind, pure, Except.pure]

omit [Host η] in
/-- Only the layout can keep a pane from being created. -/
theorem create_eq_error_iff {source : Source σ} {host : η} {layout : Layout} {viewport : Viewport}
    {failure : Failure} :
    create source host layout viewport = .error failure ↔
      (effectiveLayout source layout).check = .error failure := by
  cases checked : (effectiveLayout source layout).check <;>
    simp [create, checked, bind, Except.bind, pure, Except.pure]

/-- Some sequence of actions leads from a newly created pane to this one. -/
def Reachable (pane : Pane σ η) : Prop :=
  ∃ source host layout viewport start actions,
    create source host layout viewport = .ok start ∧ start.run actions = pane

theorem Reachable.run {pane : Pane σ η} (reach : pane.Reachable) (actions : List (Action σ η)) :
    (pane.run actions).Reachable := by
  obtain ⟨source, host, layout, viewport, start, before, created, rfl⟩ := reach
  exact ⟨source, host, layout, viewport, start, before ++ actions, created, start.run_append _ _⟩

/-- Every load is a load from an address, which may change the viewport besides, and compares as the
action asks for. -/
theorem exists_loadAt_asksAfresh {pane : Pane σ η} {load : Action σ η} {result : LoadResult}
    (ends : pane.outcome? load = some result) :
    ∃ start lines env viewport, load.env? = some env ∧
      (pane.loadAt start lines (pane.asksAfresh load) env).1 = result ∧
      pane.act load =
        { (pane.loadAt start lines (pane.asksAfresh load) env).2.1 with viewport } := by
  cases load with
  | loadAt start lines afresh env => exact ⟨start, lines, env, _, rfl, Option.some.inj ends, rfl⟩
  | loadView env =>
      rw [outcome?, loadView_eq] at ends
      refine ⟨_, _, env, (pane.act (.loadView env)).viewport, rfl, Option.some.inj ends, ?_⟩
      rw [act, loadView_eq]
      rfl
  | refresh | handle | settle | clearSnapshot | dispose | setViewport | setHost => contradiction

/-- Mostly it does not matter how a load compares. -/
theorem exists_loadAt_of_outcome? {pane : Pane σ η} {load : Action σ η} {result : LoadResult}
    (ends : pane.outcome? load = some result) :
    ∃ start lines afresh env viewport, load.env? = some env ∧
      (pane.loadAt start lines afresh env).1 = result ∧
      pane.act load = { (pane.loadAt start lines afresh env).2.1 with viewport } := by
  rcases exists_loadAt_asksAfresh ends with ⟨start, lines, env, viewport, loads⟩
  exact ⟨start, lines, pane.asksAfresh load, env, viewport, loads⟩

/-! ## Transitions -/

/-- The pane with its window, now reliable, as the settled snapshot. -/
def snapped (pane : Pane σ η) (host : η) (viewport : Viewport) : Pane σ η :=
  let window := pane.window.map Line.rely
  { pane with window, snapshot := (Snapshot.ofWindow window).settle, host, viewport }

/-- All that one action can do to the lines of a pane. -/
inductive Transition (pane : Pane σ η) : Pane σ η → Prop
  /-- Lines and snapshot stay. -/
  | idle (host : η) (viewport : Viewport) : Transition pane { pane with host, viewport }
  /-- A load builds a new window and leaves the snapshot. -/
  | rebuilt (start : Address) {cells : List Cell} {count : Nat} (afresh : Bool) (host : η)
      (viewport : Viewport) : pane.disposed = false → cells.length = pane.layout.width * count →
      Transition pane
        { pane.rebuild (start.alignDown pane.layout.alignment) cells afresh with host, viewport }
  /-- A refresh takes the window as the snapshot. -/
  | taken (host : η) (viewport : Viewport) : pane.disposed = false →
      Transition pane (pane.snapped host viewport)
  /-- The snapshot is emptied. -/
  | emptied (host : η) (viewport : Viewport) :
      Transition pane { pane with snapshot := ∅, host, viewport }
  | settled : Transition pane pane.settle
  | ended : Transition pane pane.dispose

theorem transition_loadAt (pane : Pane σ η) (start : Address) (lines : Nat) (afresh : Bool)
    (env : σ) : Transition pane (pane.loadAt start lines afresh env).2.1 := by
  rcases Classical.em (pane.Accepts lines env) with accepts | refuses
  · rcases exists_loadAt_eq accepts start with ⟨result, cells, host, next, -, length, eq⟩
    rw [eq]
    exact .rebuilt start afresh host pane.viewport accepts.1 length
  · rw [loadAt_of_not_accepts refuses]
    exact .idle pane.host pane.viewport

theorem transition_loadView (pane : Pane σ η) (env : σ) :
    Transition pane (pane.loadView env).2.1 := by
  rw [loadView_eq]
  dsimp only
  rcases Classical.em (pane.Accepts (pane.plan env).lines env) with accepts | refuses
  · obtain ⟨result, cells, host, next, -, length, eq⟩ :=
      exists_loadAt_eq accepts (pane.plan env).start
    rw [eq]
    exact .rebuilt (pane.plan env).start pane.viewport.afresh host _ accepts.1 length
  · rw [loadAt_of_not_accepts refuses]
    exact .idle pane.host _

theorem transition_refresh (pane : Pane σ η) (env : σ) :
    Transition pane (pane.refresh env).2 := by
  unfold refresh
  split
  · exact .idle pane.host pane.viewport
  next live =>
      split
      · exact .emptied pane.host pane.viewport
      · dsimp only
        split
        · exact .emptied _ _
        · refine .taken _ _ ?_
          simp only [Bool.or_eq_true, not_or, Bool.not_eq_true] at live
          exact live.1

theorem transition_handle (pane : Pane σ η) (event : Event) (env : σ) :
    Transition pane (pane.handle event env).2 := by
  have idle : Transition pane pane := .idle pane.host pane.viewport
  unfold handle respondRefresh
  cases event with
  | contentChanged block =>
      dsimp only
      split
      · exact pane.transition_refresh env
      · exact idle
  | suspended target =>
      dsimp only
      split
      · exact pane.transition_refresh env
      · exact idle
  | stateChanged block =>
      dsimp only
      split
      · exact .idle _ pane.viewport
      · exact idle
  | disposed block =>
      dsimp only
      split
      · exact .ended
      · exact idle

/-- Every action does one of the six things. -/
theorem transition_act (pane : Pane σ η) (action : Action σ η) :
    Transition pane (pane.act action) := by
  cases action with
  | loadAt start lines afresh env => exact pane.transition_loadAt start lines afresh env
  | loadView env => exact pane.transition_loadView env
  | refresh env => exact pane.transition_refresh env
  | handle event env => exact pane.transition_handle event env
  | settle => exact .settled
  | clearSnapshot => exact .emptied pane.host pane.viewport
  | dispose => exact .ended
  | setViewport viewport => exact .idle pane.host viewport
  | setHost host => exact .idle host pane.viewport

theorem Transition.frame {pane next : Pane σ η} (step : Transition pane next) :
    next.source = pane.source ∧ next.layout = pane.layout := by
  cases step <;> exact ⟨rfl, rfl⟩

/-- Nothing changes where the bytes come from or how they are laid out. -/
theorem frame_run (pane : Pane σ η) (actions : List (Action σ η)) :
    (pane.run actions).source = pane.source ∧ (pane.run actions).layout = pane.layout := by
  induction actions generalizing pane with
  | nil => exact ⟨rfl, rfl⟩
  | cons action actions ih =>
      obtain ⟨source, layout⟩ := (pane.transition_act action).frame
      obtain ⟨source', layout'⟩ := ih (pane.act action)
      exact ⟨source'.trans source, layout'.trans layout⟩

/-! ## A pane to try things on -/

namespace Sample

/-- An image of one line and a quarter. -/
def image : Image := {
  base := 0x1000
  bytes := #[1, 2, 3, 4, 5, 6, 7, 8, 9, 10, 11, 12, 13, 14, 15, 16, 17, 18, 19, 20] }

/-- The image with another byte at the address 0x1003. -/
def written : Image := image.write 0x1003 [99]

def source : Source Image := Image.source ⟨1⟩ ⟨1⟩ (.ranged (Image.rangedBlock 0 1 false))

def pane : Pane Image Recorder := { source, host := {}, layout := {} }

theorem reachable_run (actions : List (Action Image Recorder)) :
    (pane.run actions).Reachable :=
  ⟨source, {}, {}, {}, pane, actions, rfl, rfl⟩

end Sample

end Pane

end MemoryPane
