import MemoryPane.Proofs.Pane.Refresh

/-!
Scrolling between two refreshes. Loads and whatever else a scrolling user brings about leave the
snapshot as the refresh took it (`sameBasis_run`), so that every load compares with the window that
was shown then. If windows start at whole lines, an address stands at the same place of the same
line in every window, and what a byte says about its change follows from the snapshot and from the
content last loaded alone (`marksAt_of_scrolled`).
-/

namespace MemoryPane

/-- An address aligned to whole lines is on the grid. -/
theorem Address.dvd_value_alignDown {size boundary : Nat} (grid : size ∣ boundary)
    (pos : 0 < boundary) (a : Address) : size ∣ (a.alignDown boundary).value := by
  rw [alignDown_eq pos]
  exact Nat.dvd_trans grid (Nat.dvd_mul_left _ _)

/-- What the line says about the unit at an address is what a comparison with the lines `shown`
tells: a byte changed if it is content, was content when it was shown, and has another value now. -/
structure Line.MarksAt (layout : Layout) (shown : List Line) (line : Line) (a : Address) :
    Prop where
  held : ∀ k < layout.unit, ∃ cell, line.unitCell? layout a k = some cell
  seen : ∀ earlier ∈ shown, earlier.Covers layout a →
    ∀ (k : Nat) (cell : Cell), line.unitCell? layout a k = some cell →
      ∃ before, earlier.unitCell? layout a k = some before ∧
        cell.isChanged = (cell.valid && before.valid && cell.value != before.value)
  unseen : (∀ earlier ∈ shown, ¬ earlier.Covers layout a) →
    line.reliable = false ∧
      ∀ (k : Nat) (cell : Cell), line.unitCell? layout a k = some cell →
        cell.isKnown = false ∧ cell.isChanged = false

namespace Pane

variable {σ η : Type}

/-! ## Actions of a scrolling user -/

namespace Action

/-- The action loads. -/
def isLoad : Action σ η → Bool
  | .loadAt .. | .loadView _ => true
  | _ => false

/-- The action may occur while the user scrolls: it takes no snapshot, empties none and does not end
the pane. -/
def isScroll : Action σ η → Bool
  | .loadAt .. | .loadView _ | .settle | .setViewport _ | .setHost _ => true
  | .handle (.stateChanged _) _ => true
  | _ => false

end Action

/-! ## What scrolling leaves alone -/

/-- The two panes compare with the same lines. -/
structure SameBasis (pane next : Pane σ η) : Prop where
  source : next.source = pane.source
  layout : next.layout = pane.layout
  snapshot : next.snapshot = pane.snapshot

variable {pane : Pane σ η}

theorem SameBasis.trans {middle last : Pane σ η} (first : pane.SameBasis middle)
    (second : middle.SameBasis last) : pane.SameBasis last :=
  ⟨second.source.trans first.source, second.layout.trans first.layout,
    second.snapshot.trans first.snapshot⟩

/-- If windows start at whole lines, all lines stand on one grid. -/
theorem WellFormed.dvd_address (wf : pane.WellFormed)
    (grid : pane.layout.lineUnits ∣ pane.layout.alignment) {line : Line}
    (member : line ∈ pane.window) : pane.layout.lineUnits ∣ line.address.value := by
  rcases List.mem_iff_getElem?.mp member with ⟨i, here⟩
  rcases wf.placed i line here with ⟨-, -, top, shown, stands⟩
  rcases wf.aligned top shown with ⟨start, rfl⟩
  rw [stands, Address.value_offset]
  apply Nat.dvd_add
  · exact start.dvd_value_alignDown grid wf.usable.alignment_pos
  · exact Nat.dvd_mul_left _ _

variable [Host η]

theorem isScroll_of_outcome? {load : Action σ η} {result : LoadResult}
    (ends : pane.outcome? load = some result) : load.isScroll = true := by
  cases load with
  | loadAt | loadView => rfl
  | refresh | handle | settle | clearSnapshot | dispose | setViewport | setHost => contradiction

theorem sameBasis_loadAt (pane : Pane σ η) (start : Address) (lines : Nat) (afresh : Bool)
    (env : σ) : pane.SameBasis (pane.loadAt start lines afresh env).2.1 := by
  rcases Classical.em (pane.Accepts lines env) with accepts | refuses
  · rcases exists_loadAt_eq accepts start with ⟨result, cells, host, next, -, -, eq⟩
    rw [eq]
    exact ⟨rfl, rfl, rfl⟩
  · rw [loadAt_of_not_accepts refuses]
    exact ⟨rfl, rfl, rfl⟩

/-- Scrolling changes neither where the bytes come from nor what they are compared with. -/
theorem sameBasis_act (wf : pane.WellFormed) {action : Action σ η}
    (scrolls : action.isScroll = true) : pane.SameBasis (pane.act action) := by
  cases action with
  | loadAt start lines afresh env => exact pane.sameBasis_loadAt start lines afresh env
  | loadView env =>
      obtain ⟨source, layout, snapshot⟩ := pane.sameBasis_loadAt (pane.plan env).start
        (pane.plan env).lines pane.viewport.afresh env
      rw [act, loadView_eq]
      exact ⟨source, layout, snapshot⟩
  | handle event env =>
      cases event with
      | stateChanged block =>
          simp only [act, handle]
          split <;> exact ⟨rfl, rfl, rfl⟩
      | contentChanged | suspended | disposed => contradiction
  | settle =>
      -- no byte of the snapshot is changed, so that there is nothing to settle
      rw [act, wf.settle_eq]
      exact ⟨rfl, rfl, rfl⟩
  | setViewport | setHost => exact ⟨rfl, rfl, rfl⟩
  | refresh | clearSnapshot | dispose => contradiction

/-- What does not load leaves the lines. -/
theorem window_act {action : Action σ η} (scrolls : action.isScroll = true)
    (stays : action.isLoad = false) : (pane.act action).window = pane.window := by
  cases action with
  | handle event env =>
      cases event with
      | stateChanged block =>
          simp only [act, handle]
          split <;> rfl
      | contentChanged | suspended | disposed => contradiction
  | settle | setViewport | setHost => rfl
  | loadAt | loadView | refresh | clearSnapshot | dispose => contradiction

theorem sameBasis_run (wf : pane.WellFormed) {actions : List (Action σ η)}
    (scroll : ∀ action ∈ actions, action.isScroll = true) :
    pane.SameBasis (pane.run actions) := by
  induction actions generalizing pane with
  | nil => exact ⟨rfl, rfl, rfl⟩
  | cons action actions ih =>
      have first := sameBasis_act wf (scroll action List.mem_cons_self)
      have rest := ih (wf.transition (pane.transition_act action)) fun later member =>
        scroll later (List.mem_cons_of_mem action member)
      exact first.trans rest

theorem window_run {actions : List (Action σ η)}
    (scroll : ∀ action ∈ actions, action.isScroll = true)
    (stay : ∀ action ∈ actions, action.isLoad = false) :
    (pane.run actions).window = pane.window := by
  induction actions generalizing pane with
  | nil => rfl
  | cons action actions ih =>
      rw [run_cons, ih (fun later member => scroll later (List.mem_cons_of_mem action member))
        fun later member => stay later (List.mem_cons_of_mem action member)]
      exact window_act (scroll action List.mem_cons_self) (stay action List.mem_cons_self)

/-- A line of the window that a load built is a full line without marks of its own, highlighted. -/
theorem exists_fresh_of_outcome? (usable : pane.layout.Usable) {load : Action σ η}
    {result : LoadResult} (ends : pane.outcome? load = some result)
    (built : result.buildsWindow = true) {line : Line} (member : line ∈ (pane.act load).window) :
    ∃ fresh afresh, fresh.size = pane.layout.width ∧ fresh.reliable = false ∧
      line = (pane.highlight afresh fresh).1 := by
  rcases exists_loadAt_of_outcome? ends with ⟨start, lines, afresh, env, viewport, -, rfl, eq⟩
  rw [eq] at member
  obtain ⟨fresh, found⟩ :=
    exists_fresh_of_mem_window usable (buildsWindow_loadAt_iff.mp built) member
  exact ⟨fresh, afresh, found⟩

/-! ## Highlights stay stable -/

/-- A load compares each address with the window that was taken as the snapshot. -/
theorem marksAt_of_outcome? (wf : pane.WellFormed) (unmarked : pane.source.marksChanges = false)
    (grid : pane.layout.lineUnits ∣ pane.layout.alignment)
    (calm : Host.showsFailure pane.host = false) {shown : List Line}
    (taken : pane.snapshot = (Snapshot.ofWindow (shown.map Line.rely)).settle)
    (placed : ∀ earlier ∈ shown, pane.layout.lineUnits ∣ earlier.address.value)
    {load : Action σ η} {result : LoadResult} (ends : pane.outcome? load = some result)
    (built : result.buildsWindow = true) {line : Line} (member : line ∈ (pane.act load).window)
    {a : Address} (covers : line.Covers pane.layout a) : line.MarksAt pane.layout shown a := by
  have next := wf.transition (pane.transition_act load)
  rcases sameBasis_act wf (isScroll_of_outcome? ends) with ⟨-, layout, -⟩
  rcases List.mem_iff_getElem?.mp member with ⟨i, here⟩
  have full : line.size = pane.layout.width := layout ▸ (next.placed i line here).2.1
  have own : pane.layout.lineUnits ∣ line.address.value := by
    have aligned := next.dvd_address (layout.symm ▸ grid) member
    rwa [layout] at aligned
  rcases exists_fresh_of_outcome? wf.usable ends built member with ⟨fresh, afresh, size, bare, rfl⟩
  rcases highlight_of_snapped wf unmarked calm taken size afresh with ⟨partner, alone⟩
  constructor
  · intro k inside
    exact Line.exists_unitCell wf.usable full covers inside
  · intro earlier inside covered k cell at_k
    -- both lines stand on the grid, so that the unit has the same place in them
    have same := Line.address_eq_of_covers own (placed earlier inside) covers covered
    rw [Line.unitCell?] at at_k
    rw [address_highlight] at same
    rcases (partner earlier inside same.symm).2 _ cell at_k with ⟨before, there, changed, -⟩
    refine ⟨before, ?_, changed⟩
    rw [Line.unitCell?, ← same, ← address_highlight pane afresh fresh]
    exact there
  · intro uncovered
    have none : ∀ earlier ∈ shown, earlier.address ≠ fresh.address := by
      intro earlier inside same
      apply uncovered earlier inside
      rw [Line.Covers, same, ← address_highlight pane afresh fresh]
      exact covers
    rw [alone none]
    refine ⟨bare, fun k cell at_k => ?_⟩
    rcases List.mem_map.mp (List.mem_of_getElem? at_k) with ⟨former, -, rfl⟩
    exact ⟨former.isKnown_forget, former.isChanged_forget⟩

/-- However the user scrolled since a refresh, the window of the last load says about each address
what a comparison with the window of the refresh tells. -/
theorem marksAt_of_scrolled {env : σ} {before after : List (Action σ η)} {load : Action σ η}
    {result : LoadResult} (reach : pane.Reachable) (unmarked : pane.source.marksChanges = false)
    (grid : pane.layout.lineUnits ∣ pane.layout.alignment) (done : (pane.refresh env).1 = true)
    (calm : Host.showsFailure pane.host = false)
    (scroll : ∀ action ∈ before ++ after, action.isScroll = true)
    (last : ∀ action ∈ after, action.isLoad = false)
    (ends : ((pane.refresh env).2.run before).outcome? load = some result)
    (built : result.buildsWindow = true)
    (unfailed : Host.showsFailure ((pane.refresh env).2.run before).host = false) :
    ∀ line ∈ ((pane.refresh env).2.run (before ++ load :: after)).window, ∀ a,
      line.Covers pane.layout a → line.MarksAt pane.layout pane.window a := by
  intro line member a covers
  have wf := reach.wellFormed
  have live := (fst_refresh_eq_true_iff.mp done).1
  rw [snd_refresh done calm] at ends unfailed member
  generalize Host.noticeContent pane.host = host at ends unfailed member
  generalize { pane.viewport with afresh := true } = viewport at ends unfailed member
  have whole := wf.snapped host viewport live
  have scrolled := whole.run before
  -- until the last load the snapshot is what the refresh took
  obtain ⟨source, layout, snapshot⟩ := sameBasis_run whole fun action inside =>
    scroll action (List.mem_append_left after inside)
  -- the window is that of the last load
  rw [run_append, run_cons,
    window_run (fun action inside => scroll action (List.mem_append_right before inside)) last]
    at member
  have same : ((pane.snapped host viewport).run before).layout = pane.layout := layout
  rw [← same] at covers grid ⊢
  refine marksAt_of_outcome? scrolled ?_ grid unfailed snapshot ?_ ends built member covers
  · rw [source]
    exact unmarked
  · intro earlier inside
    rw [same] at grid ⊢
    exact wf.dvd_address grid inside

/-- After a write the user scrolls out of the image and back again. -/
theorem marksAt_of_scrolled_sample :
    let shown := Sample.pane.run [.loadAt ⟨0x1000⟩ 2 false Sample.image]
    let scrolled := (shown.refresh Sample.written).2.run
      ([.loadAt ⟨0x2000⟩ 1 true Sample.written, .handle (.stateChanged ⟨1⟩) Sample.written] ++
        .loadAt ⟨0xff8⟩ 3 false Sample.written :: [.settle])
    scrolled.window.countP Line.hasChanges = 1 ∧
      ∀ line ∈ scrolled.window, ∀ a, line.Covers shown.layout a →
        line.MarksAt shown.layout shown.window a :=
  ⟨by decide +kernel,
    marksAt_of_scrolled (Sample.reachable_run _) rfl (by decide) rfl rfl (by decide) (by decide) rfl
      (by decide +kernel) rfl⟩

end Pane

end MemoryPane
