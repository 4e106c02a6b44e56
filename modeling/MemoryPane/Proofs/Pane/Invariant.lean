import MemoryPane.Proofs.Pane.Run

/-!
What holds of a pane whatever happened to it. `Pane.WellFormed` collects it field by field, a newly
created pane has it (`WellFormed.create`), and every transition keeps it (`WellFormed.transition`),
so that every reachable pane has it. The fields need each other: lines stand at distinct addresses
only because the layout holds whole units, and a state that is taken over from the snapshot belongs
to a valid byte only because the snapshot is sound and the content is the same.
-/

namespace MemoryPane

/-! ## Lines with sound change states -/

namespace Line

/-- Something is known only about the changes of bytes that are content. -/
def Sound (line : Line) : Prop :=
  ∀ cell ∈ line.cells, cell.isKnown = true → cell.valid = true

theorem sound_forget (line : Line) : line.forget.Sound := by
  intro cell member known
  rw [forget, cells_mapCells, List.mem_map] at member
  obtain ⟨fresh, -, rfl⟩ := member
  rw [Cell.isKnown_forget] at known
  contradiction

theorem Sound.rely {line : Line} (sound : line.Sound) : line.rely.Sound := sound

theorem Sound.settle {line : Line} (sound : line.Sound) : line.settle.Sound := by
  intro cell member known
  rw [Line.settle, cells_mapCells, List.mem_map] at member
  obtain ⟨former, before, rfl⟩ := member
  rw [Cell.isKnown_settle] at known
  exact sound former before known

/-- A placeholder of a sound line says nothing about changes. -/
theorem Sound.eq_placeholder {line : Line} (sound : line.Sound) {cell : Cell}
    (member : cell ∈ line.cells) (blank : cell.forget = .placeholder) : cell = .placeholder := by
  have invalid : cell.valid = false := congrArg Cell.valid blank
  cases known : cell.isKnown with
  | true =>
      rw [sound cell member known] at invalid
      contradiction
  | false =>
      have unknown : cell.change = .unknown := by simpa [Cell.isKnown] using known
      rw [← blank, Cell.forget, ← unknown]

/-- Highlighting against a sound and settled line gives a sound line. -/
theorem sound_highlight {line earlier : Line} (size : line.size = earlier.size)
    (settled : earlier.hasChanges = false) (sound : earlier.Sound) (afresh : Bool) :
    (line.highlight earlier afresh).1.Sound := by
  intro cell member known
  rcases List.mem_iff_getElem?.mp member with ⟨k, here⟩
  rcases cell_highlight size settled here with ⟨before, there, -, state⟩
  split at state
  · rw [state, Bool.and_eq_true] at known
    exact known.1
  · rw [state.2]
    rw [state.1] at known
    exact sound before (List.mem_of_getElem? there) known

@[simp] theorem address_settle (line : Line) : line.settle.address = line.address := rfl

@[simp] theorem size_forget (line : Line) : line.forget.size = line.size := List.length_map _

@[simp] theorem size_settle (line : Line) : line.settle.size = line.size := by
  rw [settle, size, size, cells_mapCells, List.length_map]

end Line

namespace Snapshot

/-- If no two lines share an address, each is found under its own. -/
theorem find?_address {snapshot : Snapshot} (distinct : (snapshot.lines.map Line.address).Nodup)
    {line : Line} (member : line ∈ snapshot.lines) :
    snapshot.find? line.address = some line := by
  obtain ⟨lines⟩ := snapshot
  unfold find?
  dsimp only at distinct member ⊢
  induction lines with
  | nil => exact (List.not_mem_nil member).elim
  | cons first rest ih =>
      rw [List.map_cons, List.nodup_cons] at distinct
      rcases List.mem_cons.mp member with rfl | later
      · simp
      · have other : first.address ≠ line.address := fun same =>
          distinct.1 (same ▸ List.mem_map_of_mem later)
        rw [List.find?_cons_of_neg (by simpa using other)]
        exact ih distinct.2 later

end Snapshot

namespace Pane

variable {σ η : Type}

/-! ## The invariant -/

structure WellFormed (pane : Pane σ η) : Prop where
  usable : pane.layout.Usable
  /-- The unit is the one that the source declares, if it declares one. -/
  unit_eq : pane.layout.unit = pane.source.unit?.getD pane.layout.unit
  aligned : ∀ top, pane.top = some top →
    ∃ start : Address, top = start.alignDown pane.layout.alignment
  placed : ∀ i line, pane.window[i]? = some line →
    line.index = i ∧ line.size = pane.layout.width ∧
      ∃ top, pane.top = some top ∧ line.address = top.offset (i * pane.layout.lineUnits)
  window_sound : pane.source.marksChanges = false → ∀ line ∈ pane.window, line.Sound
  distinct : (pane.snapshot.lines.map Line.address).Nodup
  kept : ∀ line ∈ pane.snapshot.lines,
    line.size = pane.layout.width ∧ line.reliable = true ∧ line.hasChanges = false
  snapshot_sound : pane.source.marksChanges = false → ∀ line ∈ pane.snapshot.lines, line.Sound
  ended : pane.disposed = true → pane.window = [] ∧ pane.snapshot = ∅ ∧ pane.top = none

namespace WellFormed

variable {pane next : Pane σ η}

/-- A newly created pane is well-formed: its layout was checked, and it has no lines. -/
theorem create {source : Source σ} {host : η} {layout : Layout} {viewport : Viewport}
    (created : create source host layout viewport = .ok pane) : pane.WellFormed := by
  have unit (source : Source σ) (layout : Layout) : (effectiveLayout source layout).unit =
      source.unit?.getD (effectiveLayout source layout).unit := by
    cases declared : source.unit? <;> simp [effectiveLayout, declared]
  obtain ⟨usable, rfl⟩ := create_eq_ok_iff.mp created
  exact {
    usable
    unit_eq := unit source layout
    aligned := by simp
    placed := by simp
    window_sound := by simp
    distinct := List.nodup_nil
    kept := fun line member => (List.not_mem_nil member).elim
    snapshot_sound := fun _ line member => (List.not_mem_nil member).elim
    ended := by simp }

/-- The lines of the window stand at increasing addresses. -/
theorem pairwise_address_lt (wf : pane.WellFormed) :
    (pane.window.map Line.address).Pairwise (· < ·) := by
  rw [List.pairwise_map, List.pairwise_iff_getElem]
  intro i j low high before
  rcases wf.placed i _ (List.getElem?_eq_getElem low) with ⟨-, -, top, shown, here⟩
  rcases wf.placed j _ (List.getElem?_eq_getElem high) with ⟨-, -, also, there, later⟩
  obtain rfl : top = also := Option.some.inj (shown.symm.trans there)
  rw [here, later, Address.lt_def, Address.value_offset, Address.value_offset]
  exact Nat.add_lt_add_left (Nat.mul_lt_mul_of_pos_right before wf.usable.lineUnits_pos) _

theorem nodup_address (wf : pane.WellFormed) : (pane.window.map Line.address).Nodup :=
  wf.pairwise_address_lt.imp fun less same => by
    rw [same, Address.lt_def] at less
    exact Nat.lt_irrefl _ less

/-- The lines that the snapshot holds have the size of the lines of a window. -/
theorem size_eq_of_find? (wf : pane.WellFormed) {line earlier : Line}
    (size : line.size = pane.layout.width) {a : Address}
    (held : pane.snapshot.find? a = some earlier) : line.size = earlier.size :=
  size.trans (wf.kept earlier (Snapshot.mem_of_find? held)).1.symm

/-- Settling changes nothing: no byte of a snapshot is changed. -/
theorem settle_eq (wf : pane.WellFormed) : pane.settle = pane := by
  have lines : pane.snapshot.lines.map Line.settle = pane.snapshot.lines := by
    rw [List.map_congr_left fun line member =>
      Line.settle_of_not_hasChanges (wf.kept line member).2.2, List.map_id']
  rw [settle, Snapshot.settle, lines]

/-- The lines of a well-formed window make a good snapshot. -/
theorem snapped (wf : pane.WellFormed) (host : η) (viewport : Viewport)
    (live : pane.disposed = false) : (pane.snapped host viewport).WellFormed := by
  have lines : ∀ line ∈ (pane.snapped host viewport).snapshot.lines,
      ∃ former ∈ pane.window, former.rely.settle = line := by
    simp [Pane.snapped, Snapshot.settle, Snapshot.ofWindow]
  have addresses : (pane.snapped host viewport).snapshot.lines.map Line.address =
      pane.window.map Line.address := by
    simp [Pane.snapped, Snapshot.settle, Snapshot.ofWindow, Line.rely]
  exact {
    usable := wf.usable
    unit_eq := wf.unit_eq
    aligned := wf.aligned
    placed := by
      intro i line here
      rw [Pane.snapped, List.getElem?_map, Option.map_eq_some_iff] at here
      obtain ⟨former, before, rfl⟩ := here
      exact wf.placed i former before
    window_sound := by
      intro unmarked line member
      rcases List.mem_map.mp member with ⟨former, before, rfl⟩
      exact wf.window_sound unmarked former before
    distinct := by
      rw [addresses]
      exact wf.nodup_address
    kept := by
      intro line member
      rcases lines line member with ⟨former, before, rfl⟩
      rcases List.mem_iff_getElem?.mp before with ⟨i, here⟩
      have size : former.rely.size = pane.layout.width := (wf.placed i former here).2.1
      exact ⟨(Line.size_settle _).trans size, rfl, Line.hasChanges_settle _⟩
    snapshot_sound := by
      intro unmarked line member
      rcases lines line member with ⟨former, before, rfl⟩
      exact (wf.window_sound unmarked former before).rely.settle
    ended := by simp [Pane.snapped, live] }

theorem emptied (wf : pane.WellFormed) (host : η) (viewport : Viewport) :
    WellFormed { pane with snapshot := ∅, host, viewport } where
  usable := wf.usable
  unit_eq := wf.unit_eq
  aligned := wf.aligned
  placed := wf.placed
  window_sound := wf.window_sound
  distinct := List.nodup_nil
  kept := fun _ member => (List.not_mem_nil member).elim
  snapshot_sound := fun _ _ member => (List.not_mem_nil member).elim
  ended := fun disposed => ⟨(wf.ended disposed).1, rfl, (wf.ended disposed).2.2⟩

theorem dispose (wf : pane.WellFormed) : pane.dispose.WellFormed where
  usable := wf.usable
  unit_eq := wf.unit_eq
  aligned := by simp [Pane.dispose]
  placed := by simp [Pane.dispose]
  window_sound := by simp [Pane.dispose]
  distinct := List.nodup_nil
  kept := fun _ member => (List.not_mem_nil member).elim
  snapshot_sound := fun _ _ member => (List.not_mem_nil member).elim
  ended := fun _ => ⟨rfl, rfl, rfl⟩

variable [Host η]

/-- A line that was highlighted by a well-formed pane is sound if the pane compares by itself. -/
theorem sound_highlight (wf : pane.WellFormed) (unmarked : pane.source.marksChanges = false)
    {line : Line} (size : line.size = pane.layout.width) (afresh : Bool) :
    (pane.highlight afresh line).1.Sound := by
  cases calm : Host.showsFailure pane.host with
  | true =>
      rw [highlight_of_showsFailure unmarked calm]
      exact line.sound_forget
  | false =>
      cases held : pane.snapshot.find? line.address with
      | none =>
          rw [highlight_of_find?_eq_none unmarked held]
          exact line.sound_forget
      | some earlier =>
          rw [highlight_of_find?_eq_some unmarked calm held]
          have member := Snapshot.mem_of_find? held
          have sizes : ({ line.forget with reliable := true } : Line).size = earlier.size :=
            line.size_forget.trans (wf.size_eq_of_find? size held)
          exact Line.sound_highlight sizes (wf.kept earlier member).2.2
            (wf.snapshot_sound unmarked earlier member) afresh

theorem rebuilt (wf : pane.WellFormed) (start : Address) {cells : List Cell} {count : Nat}
    (afresh : Bool) (host : η) (viewport : Viewport) (live : pane.disposed = false)
    (length : cells.length = pane.layout.width * count) :
    WellFormed
      { pane.rebuild (start.alignDown pane.layout.alignment) cells afresh with
        host, viewport } where
  usable := wf.usable
  unit_eq := wf.unit_eq
  aligned := fun top shown => ⟨start, (Option.some.inj shown).symm⟩
  placed := by
    intro i line here
    rw [getElem?_window_rebuild, Option.map_eq_some_iff] at here
    obtain ⟨fresh, own, rfl⟩ := here
    have bare := pane.bare_highlight afresh fresh
    have size : (pane.highlight afresh fresh).1.size = fresh.size := by
      simpa using congrArg Line.size bare
    have full := Layout.size_of_getElem?_lines wf.usable length own
    rw [Layout.getElem?_lines wf.usable length] at own
    split at own
    · cases own
      exact ⟨congrArg Line.index bare, size.trans full, _, rfl, congrArg Line.address bare⟩
    · contradiction
  window_sound := by
    intro unmarked line member
    rcases List.mem_iff_getElem?.mp member with ⟨i, here⟩
    rw [getElem?_window_rebuild, Option.map_eq_some_iff] at here
    obtain ⟨fresh, own, rfl⟩ := here
    exact wf.sound_highlight unmarked (Layout.size_of_getElem?_lines wf.usable length own) afresh
  distinct := wf.distinct
  kept := wf.kept
  snapshot_sound := wf.snapshot_sound
  ended := by simp [rebuild, live]

/-- Every transition keeps the invariant. -/
theorem transition (wf : pane.WellFormed) (step : Transition pane next) : next.WellFormed := by
  cases step with
  | idle host viewport => exact { wf with }
  | rebuilt start afresh host viewport live length =>
      exact wf.rebuilt start afresh host viewport live length
  | taken host viewport live => exact wf.snapped host viewport live
  | emptied host viewport => exact wf.emptied host viewport
  | settled =>
      rw [wf.settle_eq]
      exact wf
  | ended => exact wf.dispose

theorem run (wf : pane.WellFormed) (actions : List (Action σ η)) :
    (pane.run actions).WellFormed := by
  induction actions generalizing pane with
  | nil => exact wf
  | cons action actions ih => exact ih (wf.transition (pane.transition_act action))

end WellFormed

theorem Reachable.wellFormed [Host η] {pane : Pane σ η} (reach : pane.Reachable) :
    pane.WellFormed := by
  obtain ⟨source, host, layout, viewport, start, actions, created, rfl⟩ := reach
  exact (WellFormed.create created).run actions

/-! ## What the lines of a pane look like -/

/-- The lines of a pane in good order. -/
structure Consistent (pane : Pane σ η) : Prop where
  /-- Line `i` of the window has index `i`, is full, and stands `i` lines above the top. -/
  placed : ∀ i line, pane.window[i]? = some line →
    line.index = i ∧ line.size = pane.layout.width ∧
      ∃ top, pane.top = some top ∧ line.address = top.offset (i * pane.layout.lineUnits)
  increasing : (pane.window.map Line.address).Pairwise (· < ·)
  distinct : (pane.window.map Line.address).Nodup
  /-- Each line of the snapshot is found under its own address, is full and reliable, and has no
  changed byte. -/
  kept : ∀ line ∈ pane.snapshot.lines,
    pane.snapshot.find? line.address = some line ∧ line.size = pane.layout.width ∧
      line.reliable = true ∧ ∀ cell ∈ line.cells, cell.isChanged = false
  settled : pane.settle = pane
  /-- Changed bytes are known, and known bytes are content if the pane compares by itself. -/
  sound : ∀ line ∈ pane.window ++ pane.snapshot.lines, ∀ cell ∈ line.cells,
    (cell.isChanged = true → cell.isKnown = true) ∧
      (pane.source.marksChanges = false → cell.isKnown = true → cell.valid = true)
  ended : pane.disposed = true → pane.window = [] ∧ pane.snapshot = ∅ ∧ pane.top = none

theorem consistent_of_reachable [Host η] {pane : Pane σ η} (reach : pane.Reachable) :
    pane.Consistent := by
  have wf := reach.wellFormed
  exact {
    placed := wf.placed
    increasing := wf.pairwise_address_lt
    distinct := wf.nodup_address
    kept := by
      intro line member
      rcases wf.kept line member with ⟨size, reliable, settled⟩
      refine ⟨Snapshot.find?_address wf.distinct member, size, reliable, fun cell inside => ?_⟩
      simpa using List.any_eq_false.mp settled cell inside
    settled := wf.settle_eq
    sound := by
      intro line member cell inside
      refine ⟨Cell.isKnown_of_isChanged, fun unmarked => ?_⟩
      rcases List.mem_append.mp member with shown | held
      · exact wf.window_sound unmarked line shown cell inside
      · exact wf.snapshot_sound unmarked line held cell inside
    ended := wf.ended }

/-- After a write that a refresh and a load have made visible. -/
theorem consistent_sample :
    let pane := Sample.pane.run
      [.loadAt ⟨0x1000⟩ 2 false Sample.image, .refresh Sample.written,
        .loadAt ⟨0x1000⟩ 2 true Sample.written]
    pane.Reachable ∧ pane.Consistent :=
  ⟨Sample.reachable_run _, consistent_of_reachable (Sample.reachable_run _)⟩

end Pane

end MemoryPane
