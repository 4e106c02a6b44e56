import MemoryPane.Proofs.Tab.Digest
import MemoryPane.Proofs.Tab.Run

/-!
Catching up with a batch of events. As long as no event ends the block, a batch leaves the pane
`snapped` if some event asks for a refresh, however many do, and otherwise only tells the host
(`digest_of_stays`). The load that follows a refresh then highlights exactly what changed since the
batch was begun (`comparedWith_of_mem_catchUp`).
-/

namespace MemoryPane

/-- What the line says about changes is exactly what a comparison with the lines `shown` tells: each
byte is compared with the one in its place in the line that was shown at the same address. -/
structure Line.ComparedWith (line : Line) (shown : List Line) : Prop where
  partner : ∀ earlier ∈ shown, earlier.address = line.address →
    line.reliable = true ∧
      ∀ (k : Nat) (cell : Cell), line.cells[k]? = some cell →
        ∃ before, earlier.cells[k]? = some before ∧
          cell.isKnown = (cell.valid && before.valid) ∧
          cell.isChanged = (cell.isKnown && cell.value != before.value)
  alone : (∀ earlier ∈ shown, earlier.address ≠ line.address) →
    line.reliable = false ∧ ∀ cell ∈ line.cells, cell.isKnown = false ∧ cell.isChanged = false

variable {σ η : Type}

namespace Pane

/-- The pane after events that ask for a refresh, or after others that leave it its lines. -/
def answered (pane : Pane σ η) (asked : Bool) (host : η) : Pane σ η :=
  if asked then pane.snapped host { pane.viewport with afresh := true } else { pane with host }

@[simp] theorem disposed_answered (pane : Pane σ η) (asked : Bool) (host : η) :
    (pane.answered asked host).disposed = pane.disposed := by
  cases asked <;> rfl

variable [Host η]

/-- The load after a refresh compares every line with the window that was shown at the refresh. -/
theorem comparedWith_of_mem_loadView {pane : Pane σ η} {host : η} {viewport : Viewport} {env : σ}
    (wf : pane.WellFormed) (live : pane.disposed = false)
    (unmarked : pane.source.marksChanges = false) (calm : Host.showsFailure host = false)
    (anew : viewport.afresh = true)
    (rebuilt : ((pane.snapped host viewport).loadView env).1.buildsWindow = true) :
    ∀ line ∈ ((pane.snapped host viewport).loadView env).2.1.window,
      line.ComparedWith pane.window := by
  have whole := wf.snapped host viewport live
  rw [loadView_eq] at rebuilt ⊢
  intro line member
  obtain ⟨fresh, full, bare, rfl⟩ :=
    exists_fresh_of_mem_window whole.usable (buildsWindow_loadAt_iff.mp rebuilt) member
  have taken : (pane.snapped host viewport).snapshot =
    (Snapshot.ofWindow (pane.window.map Line.rely)).settle := rfl
  have afresh : (pane.snapped host viewport).viewport.afresh = true := anew
  rw [afresh]
  rcases highlight_of_snapped whole unmarked calm taken full true with ⟨partner, alone⟩
  constructor
  · intro earlier shown same
    rw [address_highlight] at same
    rcases partner earlier shown same with ⟨reliable, compared⟩
    refine ⟨reliable, fun k cell here => ?_⟩
    rcases compared k cell here with ⟨before, there, changed, known⟩
    refine ⟨before, there, known rfl, ?_⟩
    rw [known rfl, changed]
  · intro none
    simp only [address_highlight] at none
    rw [alone none]
    refine ⟨bare, fun cell inside => ?_⟩
    rcases List.mem_map.mp inside with ⟨former, -, rfl⟩
    exact ⟨former.isKnown_forget, former.isChanged_forget⟩

end Pane

namespace Tab

/-- The events that wait for the tab. -/
def waiting (tab : Tab σ η) (bus : Bus) : List Event :=
  match tab.subscription with
  | some id => bus.pending id
  | none => []

variable [Host η]

/-- How the load ends that follows a refresh when the tab catches up. -/
def reload (tab : Tab σ η) (bus : Bus) (env : σ) : LoadResult :=
  ({ tab with pane := (digest tab.enabled env (tab.waiting bus) tab.pane).2 }.load env).1

/-! ## A batch without an end -/

theorem digest_of_stays (quiet : Host.Quiet η) {env : σ} {events : List Event} {pane : Pane σ η}
    (live : pane.disposed = false) (present : (pane.source.status env).isGone = false)
    (visible : Host.isVisible pane.host = true) (calm : Host.showsFailure pane.host = false)
    (stays : ∀ event ∈ events, event ≠ .disposed pane.source.block) :
    ∃ host, Host.showsFailure host = false ∧
      (digest true env events pane).1.refreshed = events.any pane.asksRefresh ∧
      (digest true env events pane).2 = pane.answered (events.any pane.asksRefresh) host := by
  have done : (pane.refresh env).1 = true :=
    Pane.fst_refresh_eq_true_iff.mpr ⟨live, present, visible⟩
  obtain ⟨refreshed, eq, -, failing⟩ := @matches_digest σ η _ pane env events quiet stays
  rw [done, Bool.and_true] at refreshed
  rw [Pane.snd_refresh done calm] at eq failing
  refine ⟨(digest true env events pane).2.host, ?_, refreshed, ?_⟩
  · rw [failing]
    split
    · exact (quiet.showsFailure_noticeContent _).trans calm
    · exact calm
  · rw [eq]
    cases events.any pane.asksRefresh <;> rfl

/-- Catching up with events that ask for a refresh ends with a load of the pane they left. -/
theorem pane_catchUp {tab : Tab σ η} {bus : Bus} {env : σ} (enabled : tab.enabled = true)
    (asked : tab.waiting bus ≠ [])
    (refreshed : (digest true env (tab.waiting bus) tab.pane).1.refreshed = true)
    (live : (digest true env (tab.waiting bus) tab.pane).2.disposed = false) :
    (tab.catchUp bus env).2.1.pane =
      ((digest true env (tab.waiting bus) tab.pane).2.loadView env).2.1 := by
  cases subscribed : tab.subscription with
  | none => exact (asked (by rw [waiting, subscribed])).elim
  | some id =>
      have pending : (bus.drain id).1 = tab.waiting bus := by rw [waiting, subscribed]; rfl
      rw [catchUp, subscribed, enabled]
      dsimp only
      rw [pending, isDisposed]
      simp [live, refreshed, load]

/-- After events that ask for a refresh, and none that ends the block, the window says exactly what
changed since it was last shown. -/
theorem comparedWith_of_mem_catchUp (quiet : Host.Quiet η) {tab : Tab σ η} {bus : Bus} {env : σ}
    (reach : tab.Reachable) (enabled : tab.enabled = true) (live : tab.isDisposed = false)
    (unmarked : tab.pane.source.marksChanges = false)
    (present : (tab.pane.source.status env).isGone = false)
    (visible : Host.isVisible tab.pane.host = true)
    (calm : Host.showsFailure tab.pane.host = false)
    (asked : ∃ event ∈ tab.waiting bus, tab.pane.asksRefresh event = true)
    (stays : ∀ event ∈ tab.waiting bus, event ≠ .disposed tab.pane.source.block)
    (rebuilt : (tab.reload bus env).buildsWindow = true) :
    ∀ line ∈ (tab.catchUp bus env).2.1.pane.window, line.ComparedWith tab.pane.window := by
  obtain ⟨host, unfailed, refreshed, left⟩ := digest_of_stays quiet live present visible calm stays
  have asking : (tab.waiting bus).any tab.pane.asksRefresh = true := List.any_eq_true.mpr asked
  have nonempty : tab.waiting bus ≠ [] := by
    obtain ⟨event, member, -⟩ := asked
    exact List.ne_nil_of_mem member
  rw [asking] at refreshed left
  have running : (digest true env (tab.waiting bus) tab.pane).2.disposed = false := by
    rw [left, Pane.disposed_answered]
    exact live
  have loaded :
      ((digest true env (tab.waiting bus) tab.pane).2.loadView env).1.buildsWindow = true :=
    enabled ▸ rebuilt
  rw [pane_catchUp enabled nonempty refreshed running]
  rw [left] at loaded ⊢
  exact Pane.comparedWith_of_mem_loadView reach.pane.wellFormed live unmarked unfailed rfl loaded

/-- A bus on which two events ask the tab for a refresh, and two do not. -/
def Sample.bus : Bus where
  registered := [⟨0⟩]
  mailboxes := [⟨⟨0⟩, [.contentChanged ⟨1⟩, .stateChanged ⟨1⟩, .disposed ⟨2⟩, .suspended ⟨1⟩]⟩]
  nextNumber := 1

/-- The tab catches up after a write: one line of the window has changed bytes. -/
theorem comparedWith_of_mem_catchUp_sample :
    let caught := (Sample.tab.catchUp Sample.bus Pane.Sample.written).2.1
    caught.pane.window.countP Line.hasChanges = 1 ∧
      ∀ line ∈ caught.pane.window, line.ComparedWith Sample.tab.pane.window :=
  ⟨by decide +kernel,
    comparedWith_of_mem_catchUp Recorder.quiet Sample.reachable_tab rfl rfl rfl rfl rfl rfl
      (by decide) (by decide) (by decide +kernel)⟩

end Tab

end MemoryPane
