import MemoryPane.Proofs.Pane.Handle

/-!
The end of a pane. An action that ends a pane leaves it without a line (`ended_act`). From then on
an action can change nothing but the viewport and the host, and the host only learns of new names
(`Ended.exists_act_eq`); so a pane that has ended stays so (`Ended.run`), and answers accordingly
(`Ended.silent`).
-/

namespace MemoryPane.Pane

variable {σ η : Type}

/-- The pane has ended and let go of all lines. -/
structure Ended (pane : Pane σ η) : Prop where
  disposed : pane.disposed = true
  window : pane.window = []
  snapshot : pane.snapshot = ∅
  top : pane.top = none

theorem ended_dispose (pane : Pane σ η) : pane.dispose.Ended := ⟨rfl, rfl, rfl, rfl⟩

theorem Ended.dispose_eq {pane : Pane σ η} (ended : pane.Ended) : pane.dispose = pane := by
  obtain ⟨source, host, layout, viewport, window, snapshot, top, tally, disposed⟩ := pane
  obtain ⟨rfl, rfl, rfl, rfl⟩ := ended
  rfl

/-- The action ends the pane. -/
def Ends (pane : Pane σ η) : Action σ η → Prop
  | .dispose => True
  | .handle event _ => event = .disposed pane.source.block
  | _ => False

/-- What the host of a pane that has ended becomes by an action: it can still be replaced and learn
of new names of the block. -/
def Action.told [Host η] (block : BlockNumber) (host : η) : Action σ η → η
  | .setHost other => other
  | .handle event _ => if event = .stateChanged block then Host.noticeNames host else host
  | _ => host

variable [Host η] {pane : Pane σ η}

theorem ended_act {ending : Action σ η} (ends : pane.Ends ending) : (pane.act ending).Ended := by
  cases ending with
  | dispose => exact pane.ended_dispose
  | handle event env =>
      rw [act, show event = .disposed pane.source.block from ends, pane.handle_disposed]
      exact pane.ended_dispose
  | loadAt | loadView | refresh | settle | clearSnapshot | setViewport | setHost => exact ends.elim

/-! ## What is refused -/

section Disposed

variable (disposed : pane.disposed = true)
include disposed

theorem loadAt_of_disposed (start : Address) (lines : Nat) (afresh : Bool) (env : σ) :
    pane.loadAt start lines afresh env = (.disposed, pane, env) :=
  if_pos disposed

/-- Loading what the viewport asks for still notes which lines that would have been. -/
theorem exists_loadView_eq_of_disposed (env : σ) :
    ∃ viewport, pane.loadView env = (.disposed, { pane with viewport }, env) := by
  rw [loadView_eq]
  dsimp only
  rw [loadAt_of_disposed disposed]
  exact ⟨_, rfl⟩

theorem refresh_of_disposed (env : σ) : pane.refresh env = (false, pane) :=
  refresh_of_halted (by simp [disposed])

theorem respondRefresh_of_disposed (env : σ) : pane.respondRefresh env = (.skipped, pane) := by
  rw [respondRefresh, refresh_of_disposed disposed]
  rfl

end Disposed

/-- An event can still reach the host of a pane that has ended, but asks it for no load. -/
theorem Ended.handle_eq (ended : pane.Ended) (event : Event) (env : σ) :
    (pane.handle event env).1 ≠ .refreshed ∧
      (pane.handle event env).2 =
        { pane with host := Action.told pane.source.block pane.host (.handle event env) } := by
  have skips := respondRefresh_of_disposed ended.disposed env
  cases event with
  | contentChanged block | suspended target =>
      simp only [handle, skips]
      split <;> simp [Action.told]
  | stateChanged block =>
      by_cases own : block = pane.source.block <;> simp [handle, own, Action.told]
  | disposed block =>
      simp only [handle, ended.dispose_eq]
      split <;> simp [Action.told]

/-- All that an action can do to a pane that has ended. -/
theorem Ended.exists_act_eq (ended : pane.Ended) (action : Action σ η) :
    ∃ viewport,
      pane.act action =
        { pane with viewport, host := action.told pane.source.block pane.host } := by
  cases action with
  | loadAt start lines afresh env =>
      rw [act, loadAt_of_disposed ended.disposed]
      exact ⟨_, rfl⟩
  | loadView env =>
      obtain ⟨viewport, eq⟩ := exists_loadView_eq_of_disposed ended.disposed env
      rw [act, eq]
      exact ⟨viewport, rfl⟩
  | refresh env =>
      rw [act, refresh_of_disposed ended.disposed]
      exact ⟨_, rfl⟩
  | handle event env => exact ⟨_, (ended.handle_eq event env).2⟩
  | settle =>
      have same : pane.snapshot.settle = pane.snapshot := by rw [ended.snapshot]; rfl
      rw [act, settle, same]
      exact ⟨_, rfl⟩
  | clearSnapshot =>
      rw [act, clearSnapshot, ← ended.snapshot]
      exact ⟨_, rfl⟩
  | dispose =>
      rw [act, ended.dispose_eq]
      exact ⟨_, rfl⟩
  | setViewport viewport => exact ⟨viewport, rfl⟩
  | setHost host => exact ⟨_, rfl⟩

/-! ## A pane that has ended stays so -/

theorem Ended.act (ended : pane.Ended) (action : Action σ η) : (pane.act action).Ended := by
  obtain ⟨viewport, eq⟩ := ended.exists_act_eq action
  rw [eq]
  exact ⟨ended.disposed, ended.window, ended.snapshot, ended.top⟩

theorem Ended.run (ended : pane.Ended) (actions : List (Action σ η)) :
    (pane.run actions).Ended := by
  induction actions generalizing pane with
  | nil => exact ended
  | cons action actions ih => exact ih (ended.act action)

/-- The pane has ended, loads nothing, reads nothing and asks its host for nothing. -/
structure Silent (pane : Pane σ η) : Prop extends pane.Ended where
  loadAt : ∀ start lines afresh env,
    pane.loadAt start lines afresh env = (.disposed, pane, env)
  loadView : ∀ env, ∃ viewport, pane.loadView env = (.disposed, { pane with viewport }, env)
  refresh : ∀ env, pane.refresh env = (false, pane)
  handle : ∀ event env, (pane.handle event env).1 ≠ .refreshed
  host : ∀ action, (pane.act action).host = action.told pane.source.block pane.host

theorem Ended.silent (ended : pane.Ended) : pane.Silent where
  toEnded := ended
  loadAt := loadAt_of_disposed ended.disposed
  loadView := exists_loadView_eq_of_disposed ended.disposed
  refresh := refresh_of_disposed ended.disposed
  handle := fun event env => (ended.handle_eq event env).1
  host := by
    intro action
    obtain ⟨viewport, eq⟩ := ended.exists_act_eq action
    rw [eq]

/-- Once an action has ended a pane, it stays silent whatever happens later. -/
theorem silent_run_of_ends {ending : Action σ η} (ends : pane.Ends ending)
    (after : List (Action σ η)) : ((pane.act ending).run after).Silent :=
  ((ended_act ends).run after).silent

end MemoryPane.Pane
