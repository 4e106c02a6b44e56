import MemoryPane.Proofs.Pane.Invariant

/-!
What a load compares, and what the wish to compare afresh has to do with it. A line is compared with
the line that the snapshot holds at its address, unless the host shows a failure
(`Pane.comparand?`); `highlightedBy_comparand?` gives the change state of each of its bytes.

Two loads of a reachable pane that differ in the wish alone build windows that show the same and
call the same bytes changed (`loadAt_indifferent`). This needs the invariant: states taken over from
a snapshot with changed bytes would be other states than those of a comparison.
-/

namespace MemoryPane

/-- What the line says about changes is what a comparison with `earlier?` tells. A byte is changed
if it and its partner are content of different values. If the line was compared afresh, or something
else was read for it, a byte is known if it and its partner are content, and otherwise if its
partner is known. A line without an earlier one says nothing. -/
structure Line.HighlightedBy (line : Line) (earlier? : Option Line) (afresh : Bool) : Prop where
  compared : ∀ earlier, earlier? = some earlier →
    line.reliable = true ∧
      ∀ (k : Nat) (cell : Cell), line.cells[k]? = some cell →
        ∃ before, earlier.cells[k]? = some before ∧
          cell.isChanged = (cell.valid && before.valid && cell.value != before.value) ∧
          cell.isKnown =
            if afresh || line.readings != earlier.readings then cell.valid && before.valid
            else before.isKnown
  alone : earlier? = none →
    line.reliable = false ∧ ∀ cell ∈ line.cells, cell.isKnown = false ∧ cell.isChanged = false

namespace Pane

variable {σ η : Type}

/-- The two panes show the same and call the same bytes changed. -/
structure ShowsLike (pane other : Pane σ η) : Prop where
  top : pane.top = other.top
  addresses : pane.window.map Line.address = other.window.map Line.address
  values : pane.window.map Line.values = other.window.map Line.values
  valid : (pane.window.map fun line => line.cells.map Cell.valid) =
    other.window.map fun line => line.cells.map Cell.valid
  readOnly : (pane.window.map fun line => line.cells.map Cell.readOnly) =
    other.window.map fun line => line.cells.map Cell.readOnly
  reliable : pane.window.map Line.reliable = other.window.map Line.reliable
  changed : (pane.window.map fun line => line.cells.map Cell.isChanged) =
    other.window.map fun line => line.cells.map Cell.isChanged
  tally : pane.tally.changed = other.tally.changed

theorem ShowsLike.refl (pane : Pane σ η) : pane.ShowsLike pane :=
  ⟨rfl, rfl, rfl, rfl, rfl, rfl, rfl, rfl⟩

variable [Host η] {pane : Pane σ η}

/-- The line that a line at an address is compared with. -/
def comparand? (pane : Pane σ η) (a : Address) : Option Line :=
  if Host.showsFailure pane.host then none else pane.snapshot.find? a

theorem highlight_of_comparand?_eq_none (unmarked : pane.source.marksChanges = false) {line : Line}
    (alone : pane.comparand? line.address = none) (afresh : Bool) :
    pane.highlight afresh line = (line.forget, {}) := by
  unfold comparand? at alone
  split at alone
  next failing => exact highlight_of_showsFailure unmarked failing afresh line
  next => exact highlight_of_find?_eq_none unmarked alone afresh

/-- A line with a comparand is highlighted against a settled line of its size. -/
theorem WellFormed.highlight_of_comparand?_eq_some (wf : pane.WellFormed)
    (unmarked : pane.source.marksChanges = false) {line earlier : Line}
    (size : line.size = pane.layout.width)
    (held : pane.comparand? line.address = some earlier) :
    ({ line.forget with reliable := true } : Line).size = earlier.size ∧
      earlier.hasChanges = false ∧
      ∀ afresh, pane.highlight afresh line =
        { line.forget with reliable := true }.highlight earlier afresh := by
  unfold comparand? at held
  split at held
  · contradiction
  next calm =>
      exact ⟨line.size_forget.trans (wf.size_eq_of_find? size held),
        (wf.kept earlier (Snapshot.mem_of_find? held)).2.2,
        highlight_of_find?_eq_some unmarked (by simpa using calm) held⟩

/-! ## One load -/

theorem WellFormed.highlightedBy_comparand? (wf : pane.WellFormed)
    (unmarked : pane.source.marksChanges = false) {line : Line}
    (size : line.size = pane.layout.width) (bare : line.reliable = false) (afresh : Bool) :
    (pane.highlight afresh line).1.HighlightedBy (pane.comparand? line.address) afresh := by
  constructor
  · intro earlier held
    rcases wf.highlight_of_comparand?_eq_some unmarked size held with ⟨sizes, settled, eq⟩
    rw [eq]
    refine ⟨Line.reliable_highlight _ _ _, fun k cell here => ?_⟩
    rcases Line.cell_highlight sizes settled here with ⟨before, there, changed, known⟩
    refine ⟨before, there, changed, ?_⟩
    rw [Line.readings_highlight, ← Line.contentDiffers_eq]
    split at known
    next anew => rw [known, if_pos anew]
    next reused => rw [known.1, if_neg reused]
  · intro alone
    rw [highlight_of_comparand?_eq_none unmarked alone]
    refine ⟨bare, fun cell inside => ?_⟩
    rcases List.mem_map.mp inside with ⟨former, -, rfl⟩
    exact ⟨former.isKnown_forget, former.isChanged_forget⟩

/-- The tally counts the changed bytes of the window that a pane compared by itself. -/
theorem WellFormed.changed_tally_rebuild (wf : pane.WellFormed)
    (unmarked : pane.source.marksChanges = false) {cells : List Cell} {count : Nat}
    (length : cells.length = pane.layout.width * count) (top : Address) (afresh : Bool) :
    (pane.rebuild top cells afresh).tally.changed =
      ((pane.rebuild top cells afresh).window.flatMap Line.cells).countP Cell.isChanged := by
  simp only [rebuild, List.map_map, List.flatMap_map]
  refine Tally.changed_sum _ _ _ fun fresh member => ?_
  have size := Layout.size_of_mem_lines wf.usable length member
  dsimp only [Function.comp_apply]
  cases held : pane.comparand? fresh.address with
  | none =>
      rw [highlight_of_comparand?_eq_none unmarked held, eq_comm, List.countP_eq_zero]
      intro cell inside
      rcases List.mem_map.mp inside with ⟨former, -, rfl⟩
      simp
  | some earlier =>
      rcases wf.highlight_of_comparand?_eq_some unmarked size held with ⟨sizes, -, eq⟩
      rw [eq, Line.changed_highlight sizes]

/-! ## Two loads -/

/-- Comparing afresh changes nothing of a line but what is called known. -/
theorem WellFormed.highlight_indifferent (wf : pane.WellFormed)
    (unmarked : pane.source.marksChanges = false) {line : Line}
    (size : line.size = pane.layout.width) (first second : Bool) :
    (pane.highlight first line).1.reliable = (pane.highlight second line).1.reliable ∧
      (pane.highlight first line).1.cells.map Cell.isChanged =
        (pane.highlight second line).1.cells.map Cell.isChanged := by
  cases held : pane.comparand? line.address with
  | none =>
      rw [highlight_of_comparand?_eq_none unmarked held,
        highlight_of_comparand?_eq_none unmarked held]
      exact ⟨rfl, rfl⟩
  | some earlier =>
      rcases wf.highlight_of_comparand?_eq_some unmarked size held with ⟨sizes, settled, eq⟩
      rw [eq, eq, Line.reliable_highlight, Line.reliable_highlight,
        Line.map_isChanged_highlight sizes settled, Line.map_isChanged_highlight sizes settled]
      exact ⟨rfl, rfl⟩

theorem WellFormed.showsLike_rebuild (wf : pane.WellFormed) {cells : List Cell} {count : Nat}
    (length : cells.length = pane.layout.width * count) (top : Address) (first second : Bool) :
    (pane.rebuild top cells first).ShowsLike (pane.rebuild top cells second) := by
  cases unmarked : pane.source.marksChanges with
  | true =>
      -- the marks of the source stand, whatever is asked for
      have eq : pane.highlight first = pane.highlight second := by
        funext line
        rw [highlight, highlight, if_pos unmarked, if_pos unmarked]
      rw [rebuild, rebuild, eq]
      exact .refl _
  | false =>
      have window {β : Type} (part : Line → β)
          (same : ∀ line : Line, line.size = pane.layout.width →
            part (pane.highlight first line).1 = part (pane.highlight second line).1) :
          (pane.rebuild top cells first).window.map part =
            (pane.rebuild top cells second).window.map part := by
        simp only [rebuild, List.map_map]
        refine List.map_congr_left fun fresh member => ?_
        exact same fresh (Layout.size_of_mem_lines wf.usable length member)
      have bare {β : Type} (part : Line → β) (keeps : ∀ line : Line, part line.bare = part line) :
          (pane.rebuild top cells first).window.map part =
            (pane.rebuild top cells second).window.map part := by
        apply window
        intro line _
        rw [← keeps, bare_highlight, ← bare_highlight pane second, keeps]
      have changed := window (fun line => line.cells.map Cell.isChanged) fun line size =>
        (wf.highlight_indifferent unmarked size first second).2
      exact {
        top := rfl
        addresses := bare _ fun _ => rfl
        values := bare _ fun line => by rw [Line.values, Line.cells_bare, List.map_map]; rfl
        valid := bare _ fun line => by rw [Line.cells_bare, List.map_map]; rfl
        readOnly := bare _ fun line => by rw [Line.cells_bare, List.map_map]; rfl
        reliable := window _ fun line size =>
          (wf.highlight_indifferent unmarked size first second).1
        changed
        tally := by
          have count (window : List Line) : (window.flatMap Line.cells).countP Cell.isChanged =
              (window.map fun line => line.cells.map Cell.isChanged).flatten.countP id := by
            rw [← List.flatMap_def, ← List.map_flatMap, List.countP_map, Function.id_comp]
          rw [wf.changed_tally_rebuild unmarked length, wf.changed_tally_rebuild unmarked length,
            count, count, changed] }

/-- Loads of a reachable pane that differ in the wish to compare afresh end alike and show the same,
with the same bytes changed. What each of them says about changes is what a comparison with the
snapshot tells, or nothing where there is nothing to compare with. -/
theorem loadAt_indifferent (reach : pane.Reachable) (start : Address) (lines : Nat) (env : σ) :
    (∀ first second,
      (pane.loadAt start lines first env).1 = (pane.loadAt start lines second env).1 ∧
      (pane.loadAt start lines first env).2.1.ShowsLike
        (pane.loadAt start lines second env).2.1) ∧
    (pane.source.marksChanges = false → ∀ afresh,
      (pane.loadAt start lines afresh env).1.buildsWindow = true →
        ∀ line ∈ (pane.loadAt start lines afresh env).2.1.window,
          line.HighlightedBy (pane.comparand? line.address) afresh) := by
  have wf := reach.wellFormed
  constructor
  · intro first second
    rcases Classical.em (pane.Accepts lines env) with accepts | refuses
    · rcases exists_loadAt_eq accepts start with ⟨result, cells, host, next, -, length, eq⟩
      rw [eq, eq]
      have like := wf.showsLike_rebuild length (start.alignDown pane.layout.alignment) first second
      exact ⟨rfl, { like with }⟩
    · rw [loadAt_of_not_accepts refuses, loadAt_of_not_accepts refuses]
      exact ⟨rfl, .refl pane⟩
  · intro unmarked afresh built line member
    rcases exists_fresh_of_mem_window wf.usable (buildsWindow_loadAt_iff.mp built) member with
      ⟨fresh, size, bare, rfl⟩
    rw [address_highlight]
    exact wf.highlightedBy_comparand? unmarked size bare afresh

/-- After a write and a refresh, the second line has the content it had before: the wish decides
whether its bytes are known, but not which bytes are changed. -/
theorem loadAt_indifferent_sample :
    let pane := Sample.pane.run [.loadAt ⟨0x1000⟩ 2 false Sample.image, .refresh Sample.written]
    let reloaded := (pane.loadAt ⟨0x1000⟩ 2 false Sample.written).2.1
    let renewed := (pane.loadAt ⟨0x1000⟩ 2 true Sample.written).2.1
    (reloaded.window.map fun line => line.cells.countP Cell.isKnown) = [16, 0] ∧
      (renewed.window.map fun line => line.cells.countP Cell.isKnown) = [16, 4] ∧
      reloaded.ShowsLike renewed ∧
      ∀ line ∈ reloaded.window, line.HighlightedBy (pane.comparand? line.address) false :=
  have reach := Sample.reachable_run
    [.loadAt ⟨0x1000⟩ 2 false Sample.image, .refresh Sample.written]
  ⟨by decide +kernel, by decide +kernel,
    ((loadAt_indifferent reach ⟨0x1000⟩ 2 Sample.written).1 false true).2,
    (loadAt_indifferent reach ⟨0x1000⟩ 2 Sample.written).2 rfl false rfl⟩

end Pane

end MemoryPane
