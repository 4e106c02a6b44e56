import MemoryPane.Proofs.Highlight.Laws
import MemoryPane.Proofs.Pane.Comparison

/-!
What the tally of a pane says about its window. The lines of a window are tallied one by one as they
are highlighted, and the tally of a load is their sum. It tells how many positions were compared,
and whether any line took over the states of an earlier one, in terms of the lines that the window
then shows (`WellFormed.compared_tally_rebuild`, `WellFormed.carried_tally_rebuild_iff`).

The number of changed bytes remains true after the load: no action but a load and the end of the
pane touches the bytes that the window calls changed, since settling and emptying concern the
snapshot alone. So the count belongs to an invariant (`Tallied`), kept by every transition.
-/

namespace MemoryPane.Pane

variable {σ η : Type} [Host η] {pane : Pane σ η}

/-! ## The tally of a line -/

/-- How many positions of a line of the window are compared: those at which it and its partner have
content, unless it took over the states of its partner. -/
def comparisons (pane : Pane σ η) (afresh : Bool) (line : Line) : Nat :=
  match pane.comparand? line.address with
  | none => 0
  | some earlier => if afresh || line.readings != earlier.readings then line.overlap earlier else 0

/-- Nothing else was read for the line than for its partner. -/
def Unaltered (pane : Pane σ η) (line : Line) : Prop :=
  ∃ earlier, pane.comparand? line.address = some earlier ∧ line.readings = earlier.readings

theorem WellFormed.compared_highlight (wf : pane.WellFormed)
    (unmarked : pane.source.marksChanges = false) {line : Line}
    (size : line.size = pane.layout.width) (afresh : Bool) :
    (pane.highlight afresh line).2.compared =
      pane.comparisons afresh (pane.highlight afresh line).1 := by
  rw [comparisons, address_highlight]
  cases held : pane.comparand? line.address with
  | none => rw [highlight_of_comparand?_eq_none unmarked held]
  | some earlier =>
      obtain ⟨-, -, eq⟩ := wf.highlight_of_comparand?_eq_some unmarked size held
      have read := Line.readings_highlight { line.forget with reliable := true } earlier afresh
      rw [eq]
      dsimp only
      rw [Line.compared_highlight, Line.overlap_congr read, read]

theorem WellFormed.carried_highlight_iff (wf : pane.WellFormed)
    (unmarked : pane.source.marksChanges = false) {line : Line}
    (size : line.size = pane.layout.width) (afresh : Bool) :
    (pane.highlight afresh line).2.carried = true ↔
      afresh = false ∧ pane.Unaltered (pane.highlight afresh line).1 := by
  rw [Unaltered, address_highlight]
  cases held : pane.comparand? line.address with
  | none =>
      rw [highlight_of_comparand?_eq_none unmarked held]
      simp
  | some earlier =>
      obtain ⟨-, -, eq⟩ := wf.highlight_of_comparand?_eq_some unmarked size held
      rw [eq, Line.carried_highlight_iff, Line.readings_highlight]
      simp

/-! ## The tally of a window -/

section Rebuild

variable {cells : List Cell} {count : Nat}

theorem WellFormed.compared_tally_rebuild (wf : pane.WellFormed)
    (unmarked : pane.source.marksChanges = false)
    (length : cells.length = pane.layout.width * count) (top : Address) (afresh : Bool) :
    (pane.rebuild top cells afresh).tally.compared =
      ((pane.rebuild top cells afresh).window.map (pane.comparisons afresh)).sum := by
  simp only [rebuild, Tally.sum_eq, List.map_map]
  refine congrArg List.sum (List.map_congr_left fun line member => ?_)
  exact wf.compared_highlight unmarked (Layout.size_of_mem_lines wf.usable length member) afresh

theorem WellFormed.carried_tally_rebuild_iff (wf : pane.WellFormed)
    (unmarked : pane.source.marksChanges = false)
    (length : cells.length = pane.layout.width * count) (top : Address) (afresh : Bool) :
    (pane.rebuild top cells afresh).tally.carried = true ↔
      afresh = false ∧ ∃ line ∈ (pane.rebuild top cells afresh).window, pane.Unaltered line := by
  have each (line : Line) (member : line ∈ pane.layout.lines top cells) :=
    wf.carried_highlight_iff unmarked (Layout.size_of_mem_lines wf.usable length member) afresh
  simp only [rebuild, Tally.sum_eq, List.map_map, List.any_map, List.any_eq_true]
  constructor
  · rintro ⟨line, member, carried⟩
    obtain ⟨kept, again⟩ := (each line member).mp carried
    exact ⟨kept, _, List.mem_map_of_mem member, again⟩
  · rintro ⟨kept, _, shown, again⟩
    obtain ⟨line, member, rfl⟩ := List.mem_map.mp shown
    exact ⟨line, member, (each line member).mpr ⟨kept, again⟩⟩

end Rebuild

/-! ## The count of changed bytes -/

omit [Host η] in
/-- The tally counts the changed bytes of the window, as long as the pane has not ended. -/
def Tallied (pane : Pane σ η) : Prop :=
  pane.disposed = false → pane.tally.changed = pane.cells.countP Cell.isChanged

theorem Tallied.transition {next : Pane σ η} (tallied : pane.Tallied) (wf : pane.WellFormed)
    (unmarked : pane.source.marksChanges = false) (step : Transition pane next) :
    next.Tallied := by
  cases step with
  | rebuilt start afresh host viewport live length =>
      exact fun _ => wf.changed_tally_rebuild unmarked length _ afresh
  | taken host viewport live =>
      -- relying on the lines of the window changes none of their cells
      have cells : (pane.snapped host viewport).cells = pane.cells := by
        rw [Pane.cells, snapped, List.flatMap_map]
        rfl
      exact fun _ => cells ▸ tallied live
  | ended => exact fun live => Bool.noConfusion live
  | idle | emptied | settled => exact tallied

theorem Tallied.run (tallied : pane.Tallied) (wf : pane.WellFormed)
    (unmarked : pane.source.marksChanges = false) (actions : List (Action σ η)) :
    (pane.run actions).Tallied := by
  induction actions generalizing pane with
  | nil => exact tallied
  | cons action actions ih =>
      have step := pane.transition_act action
      exact ih (tallied.transition wf unmarked step) (wf.transition step)
        (step.frame.1 ▸ unmarked)

theorem Reachable.tallied (reach : pane.Reachable) (unmarked : pane.source.marksChanges = false) :
    pane.Tallied := by
  obtain ⟨source, host, layout, viewport, start, actions, created, rfl⟩ := reach
  have fresh : start.Tallied := by
    obtain ⟨-, rfl⟩ := create_eq_ok_iff.mp created
    exact fun _ => rfl
  rw [(start.frame_run actions).1] at unmarked
  exact fresh.run (.create created) unmarked actions

/-! ## After a load -/

/-- A load that builds a window rebuilds it and compares as it was asked to. -/
theorem exists_rebuild_of_outcome? {load : Action σ η} {result : LoadResult}
    (ends : pane.outcome? load = some result) (built : result.buildsWindow = true) :
    ∃ top cells count host viewport, cells.length = pane.layout.width * count ∧
      pane.act load =
        { pane.rebuild top cells (pane.asksAfresh load) with host, viewport } := by
  obtain ⟨start, lines, env, viewport, -, rfl, eq⟩ := exists_loadAt_asksAfresh ends
  obtain ⟨_, cells, host, _, -, length, rebuilt⟩ :=
    exists_loadAt_eq (buildsWindow_loadAt_iff.mp built) start
  exact ⟨_, cells, lines, host, viewport, length, by rw [eq, rebuilt]⟩

/-- The tally that a load of `pane` has left in `loaded`. -/
structure Tallies (pane : Pane σ η) (afresh : Bool) (loaded : Pane σ η) : Prop where
  /-- Whatever happens then, the tally counts the changed bytes of the window that is shown. -/
  changed : ∀ later : List (Action σ η), (loaded.run later).disposed = false →
    (loaded.run later).tally.changed = (loaded.run later).cells.countP Cell.isChanged
  compared : loaded.tally.compared = (loaded.window.map (pane.comparisons afresh)).sum
  carried : loaded.tally.carried = true ↔
    afresh = false ∧ Host.showsFailure pane.host = false ∧
      ∃ line ∈ loaded.window, ∃ earlier,
        pane.snapshot.find? line.address = some earlier ∧ line.readings = earlier.readings

theorem tallies_of_built (reach : pane.Reachable) (unmarked : pane.source.marksChanges = false)
    {load : Action σ η} {result : LoadResult} (ends : pane.outcome? load = some result)
    (built : result.buildsWindow = true) :
    pane.Tallies (pane.asksAfresh load) (pane.act load) := by
  have wf := reach.wellFormed
  have next := reach.run [load]
  have unmarked' : (pane.act load).source.marksChanges = false :=
    (pane.transition_act load).frame.1 ▸ unmarked
  obtain ⟨top, cells, count, host, viewport, length, eq⟩ := exists_rebuild_of_outcome? ends built
  refine {
    changed := fun later => (next.tallied unmarked').run next.wellFormed unmarked' later
    compared := ?_
    carried := ?_ }
  · rw [eq]
    exact wf.compared_tally_rebuild unmarked length top _
  · rw [eq]
    refine (wf.carried_tally_rebuild_iff unmarked length top _).trans ?_
    cases failing : Host.showsFailure pane.host <;> simp [Unaltered, comparand?, failing]

/-- The first line is compared anew after a write, and the second takes over the states of its
partner. The changed byte is still shown and counted when nothing is left to compare with. -/
theorem tallies_of_built_sample :
    let pane := Sample.pane.run [.loadAt ⟨0x1000⟩ 2 false Sample.image, .refresh Sample.written]
    let loaded := pane.act (.loadAt ⟨0x1000⟩ 2 false Sample.written)
    let later := loaded.run [.refresh Sample.written, .settle, .clearSnapshot]
    loaded.tally = ⟨16, 1, true⟩ ∧ pane.Tallies false loaded ∧
      later.tally.changed = 1 ∧ later.cells.countP Cell.isChanged = 1 := by
  intro pane loaded later
  have reach : pane.Reachable := Sample.reachable_run _
  have ends : pane.outcome? (.loadAt ⟨0x1000⟩ 2 false Sample.written) = some .loaded := by
    decide +kernel
  have tallies : pane.Tallies false loaded := tallies_of_built reach rfl ends rfl
  have counted := tallies.changed [.refresh Sample.written, .settle, .clearSnapshot]
    (by decide +kernel)
  have one : later.tally.changed = 1 := by decide +kernel
  exact ⟨by decide +kernel, tallies, one, counted.symm.trans one⟩

end MemoryPane.Pane
