import MemoryPane.Proofs.Pane.Refresh

/-!
What a refresh takes from the window. The lines shown are taken over one by one, each in place of
whatever is held under its address (`Snapshot.insert`). The lines of a window stand at distinct
addresses, so that none of them displaces another (`Snapshot.foldl_insert`), and the snapshot holds
all of them and nothing else, without their highlights (`Snapshot.Captures`). `Pane.Refreshes` says
all that a refresh does to a pane, case by case, and what another refresh right after it does.
-/

namespace MemoryPane

/-! ## Lines that are kept -/

/-- What is kept of a cell that was shown: all of it, except that it counts as unchanged. -/
structure Cell.KeptAs (shown kept : Cell) : Prop where
  value : kept.value = shown.value
  readOnly : kept.readOnly = shown.readOnly
  valid : kept.valid = shown.valid
  spare : kept.spare = shown.spare
  isKnown : kept.isKnown = shown.isKnown
  isChanged : kept.isChanged = false

theorem Cell.keptAs_settle (cell : Cell) : cell.KeptAs cell.settle :=
  ⟨rfl, rfl, rfl, rfl, cell.isKnown_settle, cell.isChanged_settle⟩

/-- What is kept of a line that was shown: a line to rely on, with the cells that are kept. -/
structure Line.KeptAs (shown kept : Line) : Prop where
  address : kept.address = shown.address
  index : kept.index = shown.index
  filler : kept.filler = shown.filler
  reliable : kept.reliable = true
  size : kept.size = shown.size
  cells : ∀ (k : Nat) (cell : Cell), shown.cells[k]? = some cell →
    ∃ left, kept.cells[k]? = some left ∧ cell.KeptAs left

theorem Line.keptAs_settle (line : Line) : line.KeptAs line.rely.settle where
  address := rfl
  index := rfl
  filler := rfl
  reliable := rfl
  size := line.rely.size_settle
  cells := by
    intro k cell here
    refine ⟨cell.settle, ?_, cell.keptAs_settle⟩
    rw [settle, cells_mapCells, List.getElem?_map, show line.rely.cells[k]? = some cell from here]
    rfl

namespace Snapshot

/-! ## Taking lines over one by one -/

/-- The snapshot with one more line, in place of what was held under its address. -/
def insert (snapshot : Snapshot) (line : Line) : Snapshot :=
  ⟨(snapshot.lines.filter fun earlier => earlier.address != line.address) ++ [line]⟩

/-- Lines at distinct addresses, where nothing was held before, are all added. -/
theorem foldl_insert (snapshot : Snapshot) {window : List Line}
    (distinct : ((snapshot.lines ++ window).map Line.address).Nodup) :
    window.foldl insert snapshot = ⟨snapshot.lines ++ window⟩ := by
  induction window generalizing snapshot with
  | nil => rw [List.append_nil, List.foldl_nil]
  | cons line rest ih =>
      have free : ∀ earlier ∈ snapshot.lines, earlier.address ≠ line.address := by
        rw [List.map_append, List.nodup_append] at distinct
        intro earlier member
        exact distinct.2.2 _ (List.mem_map_of_mem member) _ (List.mem_map_of_mem List.mem_cons_self)
      have added : snapshot.insert line = ⟨snapshot.lines ++ [line]⟩ := by
        rw [insert, List.filter_eq_self.mpr (by simpa using free)]
      rw [List.append_cons] at distinct
      rw [List.foldl_cons, added, ih _ distinct, ← List.append_cons]

/-! ## All lines of a window -/

/-- The snapshot holds the lines of the window as they are kept, and nothing else. -/
structure Captures (snapshot : Snapshot) (window : List Line) : Prop where
  size : snapshot.size = window.length
  distinct : (snapshot.lines.map Line.address).Nodup
  held : ∀ line ∈ window, ∃ kept, snapshot.find? line.address = some kept ∧ line.KeptAs kept
  only : ∀ address kept, snapshot.find? address = some kept →
    ∃ line ∈ window, line.address = address
  /-- It comes of an empty one by taking the lines over one by one. -/
  eq_foldl : snapshot = ((window.map Line.rely).foldl insert ∅).settle

theorem captures_ofWindow {window : List Line} (distinct : (window.map Line.address).Nodup) :
    (ofWindow (window.map Line.rely)).settle.Captures window := by
  have lines : (ofWindow (window.map Line.rely)).settle.lines =
      window.map fun line => line.rely.settle := by
    simp [settle, ofWindow]
  have addresses : (ofWindow (window.map Line.rely)).settle.lines.map Line.address =
      window.map Line.address := by
    rw [lines, List.map_map]
    rfl
  have relied : (window.map Line.rely).map Line.address = window.map Line.address := by
    rw [List.map_map]
    rfl
  exact {
    size := by rw [size, lines, List.length_map]
    distinct := addresses ▸ distinct
    held := by
      intro line member
      have inside : line.rely.settle ∈ (ofWindow (window.map Line.rely)).settle.lines :=
        lines ▸ List.mem_map_of_mem member
      have found := find?_address (addresses ▸ distinct) inside
      exact ⟨line.rely.settle, found, line.keptAs_settle⟩
    only := by
      intro address kept found
      have inside := mem_of_find? found
      rw [lines, List.mem_map] at inside
      obtain ⟨line, member, rfl⟩ := inside
      exact ⟨line, member, by simpa using List.find?_some found⟩
    eq_foldl := by
      rw [foldl_insert ∅ (relied ▸ distinct)]
      rfl }

end Snapshot

namespace Pane

variable {σ η : Type} [Host η]

/-- All that a refresh does. -/
structure Refreshes (pane : Pane σ η) (env : σ) : Prop where
  done_iff : (pane.refresh env).1 = true ↔
    pane.disposed = false ∧ (pane.source.status env).isGone = false ∧
      Host.isVisible pane.host = true
  /-- A pane that has ended, or whose target is gone, stays as it is. -/
  halted : pane.disposed = true ∨ (pane.source.status env).isGone = true →
    (pane.refresh env).2 = pane
  hidden : pane.disposed = false → (pane.source.status env).isGone = false →
    Host.isVisible pane.host = false → (pane.refresh env).2 = { pane with snapshot := ∅ }
  failing : (pane.refresh env).1 = true → Host.showsFailure pane.host = true →
    (pane.refresh env).2 =
      { pane with
        snapshot := ∅
        viewport := { pane.viewport with afresh := true }
        host := Host.noticeContent pane.host }
  /-- Nothing that was held before is left in the snapshot, and the lines shown keep their
  highlights. -/
  calm : (pane.refresh env).1 = true → Host.showsFailure pane.host = false →
    ∃ snapshot : Snapshot, snapshot.Captures pane.window ∧
      (pane.refresh env).2 =
        { pane with
          window := pane.window.map fun line => { line with reliable := true }
          snapshot
          viewport := { pane.viewport with afresh := true }
          host := Host.noticeContent pane.host }
  /-- Refreshing again only tells the host once more, if it is seen as before. -/
  again :
    let once := (pane.refresh env).2
    Host.isVisible once.host = Host.isVisible pane.host →
      Host.showsFailure once.host = Host.showsFailure pane.host →
        once.refresh env =
          ((pane.refresh env).1,
            if (pane.refresh env).1 then { once with host := Host.noticeContent once.host }
            else once)

theorem refreshes_of_reachable {pane : Pane σ η} (reach : pane.Reachable) (env : σ) :
    pane.Refreshes env where
  done_iff := fst_refresh_eq_true_iff
  halted := fun stopped => by rw [refresh_of_halted (by simpa using stopped)]
  hidden := by
    intro live present hidden
    rw [refresh_of_hidden (by simp [live, present]) hidden]
    rfl
  failing := by
    intro done failing
    obtain ⟨live, present, visible⟩ := fst_refresh_eq_true_iff.mp done
    rw [refresh_of_failing (by simp [live, present]) visible failing]
  calm := fun done calm =>
    ⟨_, Snapshot.captures_ofWindow reach.wellFormed.nodup_address, snd_refresh done calm⟩
  again := refresh_again

/-- A pane that shows a changed byte keeps showing it through a refresh, while the snapshot holds
both lines without a change. -/
theorem refreshes_sample :
    let pane := Sample.pane.run
      [.loadAt ⟨0x1000⟩ 2 false Sample.image, .refresh Sample.written,
        .loadAt ⟨0x1000⟩ 2 true Sample.written]
    let refreshed := (pane.refresh Sample.written).2
    pane.Refreshes Sample.written ∧ refreshed.snapshot.Captures pane.window ∧
      pane.window.map Line.hasChanges = [true, false] ∧
      refreshed.window.map Line.hasChanges = [true, false] ∧
      refreshed.snapshot.lines.map Line.hasChanges = [false, false] ∧
      refreshed.host.contentNotices = pane.host.contentNotices + 1 := by
  intro pane refreshed
  have refreshes : pane.Refreshes Sample.written :=
    refreshes_of_reachable (Sample.reachable_run _) Sample.written
  obtain ⟨snapshot, captures, eq⟩ := refreshes.calm (by decide +kernel) (by decide +kernel)
  have taken : refreshed.snapshot = snapshot := congrArg Pane.snapshot eq
  exact ⟨refreshes, taken ▸ captures, by decide +kernel, by decide +kernel, by decide +kernel,
    by decide +kernel⟩

end Pane

end MemoryPane
