import MemoryPane.Proofs.Pane.Outcome
import MemoryPane.Proofs.Pane.Placement

/-!
Whole blocks in units of single bytes. There every byte of the block stands at its own address: a
window shows the bytes that have an address in it, each in its place, and placeholders everywhere
else (`exposes_loadAt`). So the cells of the window that are content are, from the first to the
last, the bytes of the block from the top of the window to its end (`Exposes.contents`), of which
none is missing, repeated or moved.

What the block says about its length plays no part in this.
-/

namespace MemoryPane

/-- The cell belongs to an address in a window over a block that holds `bytes` from `start` on. -/
structure Cell.Exposes (start : Address) (bytes : List UInt8) (a : Address) (cell : Cell) :
    Prop where
  inside : ∀ byte, start ≤ a → bytes[a.value - start.value]? = some byte →
    cell.value = byte ∧ cell.valid = true ∧ cell.readOnly = false
  outside : a.value < start.value ∨ start.value + bytes.length ≤ a.value →
    cell.value = 0 ∧ cell.readOnly = true ∧
      cell.valid = false ∧ cell.isKnown = false ∧ cell.isChanged = false

/-! ## The bytes that a block has in a window -/

theorem filterMap_content?_padCells (count : Nat) (cells : List Cell) :
    (padCells count cells).filterMap Cell.content? =
      (cells.take count).filterMap Cell.content? := by
  rw [padCells_eq, List.filterMap_append, List.filterMap_replicate_of_none rfl, List.append_nil]

theorem filterMap_content?_map_ofByte (bytes : List UInt8) :
    (bytes.map Cell.ofByte).filterMap Cell.content? = bytes := by
  rw [List.filterMap_map]
  exact List.filterMap_some

/-- The content of a window over a block is what the block holds from the top of the window to its
end. -/
theorem filterMap_content?_placeBlock {start top : Address} {bytes : List UInt8}
    (word : start.value < Word.bound) (length : bytes.length < Word.bound) (room : Nat) :
    ((placeBlock start top room bytes).take room).filterMap Cell.content? =
      (bytes.take (top.value + room - start.value)).drop (top.value - start.value) := by
  rcases Nat.lt_or_ge start.value top.value with below | above
  · rw [placeBlock_of_lt below length, ← List.map_take, filterMap_content?_map_ofByte,
      List.take_drop]
    congr 2
    omega
  · rw [placeBlock_of_le above (by omega), Nat.sub_eq_zero_of_le above, List.drop_zero,
      List.take_of_length_le, List.filterMap_append, List.filterMap_replicate_of_none rfl,
      List.nil_append, filterMap_content?_map_ofByte]
    · congr 1
      omega
    · simp only [List.length_append, List.length_replicate, List.length_map, List.length_take]
      omega

namespace Pane

variable {σ η : Type} {pane : Pane σ η} {block : WholeBlock σ} {env : σ}

/-- The window has `lines` lines from `top` on, and shows a block that holds `bytes` from `start`
on. -/
structure Exposes (pane : Pane σ η) (top : Address) (lines : Nat) (start : Address)
    (bytes : List UInt8) : Prop where
  length : pane.window.length = lines
  /-- Line `i` stands `i` lines above the top, is full, and has the cell of each address in it. -/
  placed : ∀ i line, pane.window[i]? = some line →
    line.address = top.offset (i * pane.layout.width) ∧ line.size = pane.layout.width ∧
      ∀ (k : Nat) (cell : Cell), line.cells[k]? = some cell →
        cell.Exposes start bytes (line.address.offset k)
  contents : pane.cells.filterMap Cell.content? =
    (bytes.take (top.value + pane.layout.width * lines - start.value)).drop
      (top.value - start.value)

/-- A sound cell is the one of its address if its content is. -/
theorem exposes_of_forget {start : Address} {bytes : List UInt8} {a : Address} {line : Line}
    (sound : line.Sound) {cell : Cell} (member : cell ∈ line.cells)
    (own : cell.forget = WholeBlock.cellAt start bytes a.value) :
    cell.Exposes start bytes a where
  inside := by
    intro byte above here
    rw [Address.le_def] at above
    rw [WholeBlock.cellAt, if_neg (Nat.not_lt.mpr above), here] at own
    exact ⟨(congrArg Cell.value own :), (congrArg Cell.valid own :), (congrArg Cell.readOnly own :)⟩
  outside := by
    intro beside
    have blank : WholeBlock.cellAt start bytes a.value = .placeholder := by
      unfold WholeBlock.cellAt
      split
      · rfl
      · rw [List.getElem?_eq_none (by omega)]
        rfl
    rw [sound.eq_placeholder member (own.trans blank)]
    exact ⟨rfl, rfl, rfl, rfl, rfl⟩

variable [Host η]

/-- A load succeeds if the block answers. -/
theorem fst_loadAt_of_answered (feed : pane.source.feed = .whole block) {bytes : List UInt8}
    (answered : (block.read env).1 = .content bytes) {lines : Nat}
    (accepts : pane.Accepts lines env) (start : Address) (afresh : Bool) :
    (pane.loadAt start lines afresh env).1 = .loaded := by
  rw [(loadAt_of_accepted accepts start afresh).1, ask, Source.ask, feed]
  dsimp only
  rw [answered]
  rfl

/-- What a window over a block holds as content, from its first cell to its last. -/
theorem filterMap_content?_rebuild (usable : pane.layout.Usable) {start top : Address}
    {bytes : List UInt8} (word : start.value < Word.bound) (length : bytes.length < Word.bound)
    (lines : Nat) (afresh : Bool) :
    let room := pane.layout.width * lines
    (pane.rebuild top (padCells room (placeBlock start top room bytes)) afresh).cells.filterMap
        Cell.content? =
      (bytes.take (top.value + room - start.value)).drop (top.value - start.value) := by
  intro room
  -- whether a cell is content does not depend on what it says about changes
  have contents := congrArg (List.filterMap Cell.content?) (map_forget_cells_rebuild usable
    (length_padCells room (placeBlock start top room bytes)) top afresh)
  rw [List.filterMap_map, List.filterMap_map] at contents
  calc List.filterMap Cell.content? _
      = (padCells room (placeBlock start top room bytes)).filterMap Cell.content? := contents
    _ = ((placeBlock start top room bytes).take room).filterMap Cell.content? :=
        filterMap_content?_padCells _ _
    _ = _ := filterMap_content?_placeBlock word length room

/-- A load of a block in single bytes succeeds if the block answers, and then the window shows the
bytes of the block at their addresses. -/
theorem exposes_loadAt (reach : pane.Reachable) (feed : pane.source.feed = .whole block)
    (single : pane.layout.unit = 1) (words : block.InWords env) {bytes : List UInt8}
    (answered : (block.read env).1 = .content bytes) {lines : Nat}
    (accepts : pane.Accepts lines env) (start : Address) (afresh : Bool) :
    (pane.loadAt start lines afresh env).1 = .loaded ∧
      (pane.loadAt start lines afresh env).2.1.layout = pane.layout ∧
      (pane.loadAt start lines afresh env).2.1.Exposes
        (start.alignDown pane.layout.alignment) lines (block.startRead env) bytes := by
  let top := start.alignDown pane.layout.alignment
  have usable := reach.wellFormed.usable
  have wf := reach.wellFormed.transition (pane.transition_loadAt start lines afresh env)
  have units : pane.layout.lineUnits = pane.layout.width := by
    rw [← usable.lineUnits_mul_unit, single, Nat.mul_one]
  have unmarked : pane.source.marksChanges = false := by
    rw [Source.marksChanges, feed]
  have loaded := fst_loadAt_of_answered feed answered accepts start afresh
  obtain ⟨answer, host, reply, eq⟩ := exists_bytes_of_loaded feed loaded
  obtain rfl : bytes = answer := Reply.content.inj (answered.symm.trans reply)
  have length := words.length bytes answered
  rw [eq] at wf ⊢
  refine ⟨loaded, rfl, length_window_rebuild usable (length_padCells _ _) top afresh, ?_,
    filterMap_content?_rebuild usable words.start length lines afresh⟩
  intro i line here
  have member := List.mem_of_getElem? here
  obtain ⟨-, full, above, shown, address⟩ := wf.placed i line here
  obtain rfl : top = above := Option.some.inj shown
  have apart : line.address = top.offset (i * pane.layout.lineUnits) := address
  rw [units] at apart
  obtain ⟨stands, cells⟩ :=
    cells_rebuild_placeBlock usable words.start length lines afresh line member
  rw [single, Nat.mul_one, Nat.add_sub_of_le stands] at cells
  refine ⟨apart, full, fun k cell own => ?_⟩
  have inside : k < pane.layout.width := full ▸ (List.getElem?_eq_some_iff.mp own).1
  have forgotten : (line.cells.map Cell.forget)[k]? = some cell.forget := by
    rw [List.getElem?_map, own]
    rfl
  rw [cells, List.getElem?_map, List.getElem?_range inside] at forgotten
  exact exposes_of_forget (wf.window_sound unmarked line member) (List.mem_of_getElem? own)
    (Option.some.inj forgotten).symm

/-- A window that begins six addresses below the image and ends six above it. -/
theorem exposes_loadAt_sample :
    let pane := Sample.whole 1 1
    let loaded := pane.loadAt ⟨0xffa⟩ 2 false Sample.image
    let bytes := Sample.image.bytes.toList
    loaded.1 = .loaded ∧ loaded.2.1.Exposes ⟨0xffa⟩ 2 ⟨0x1000⟩ bytes ∧
      loaded.2.1.cells.map Cell.content? =
        List.replicate 6 none ++ bytes.map some ++ List.replicate 6 none := by
  intro pane loaded bytes
  have usable : pane.layout.Usable := ⟨by decide, by decide, by decide, by decide⟩
  have reach : pane.Reachable :=
    ⟨pane.source, {}, pane.layout, {}, pane, [], create_eq_ok_iff.mpr ⟨usable, rfl⟩, rfl⟩
  have accepts : pane.Accepts 2 Sample.image := ⟨rfl, rfl, by decide⟩
  obtain ⟨ends, -, exposes⟩ :=
    exposes_loadAt reach rfl rfl Sample.inWords rfl accepts ⟨0xffa⟩ false
  exact ⟨ends, exposes, by decide +kernel⟩

end Pane

end MemoryPane
