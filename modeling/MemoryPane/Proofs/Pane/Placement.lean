import MemoryPane.Proofs.Pane.Content

/-!
Where a whole block stands in a window. The block answers with all of its bytes, and they are put
where they belong by counting bytes from the top of the window on: `WholeBlock.cellAt` is the cell
of a place counted in that way, and every line of a window is made of the cells of its places
(`cells_of_loaded`).

Lines advance by units, however, and a place counted in bytes from one top is another place when it
is counted from another top, unless a unit is one byte. Two windows therefore agree on an address if
units are single bytes or the tops are the same (`agreesAt_of_loaded`).
-/

namespace MemoryPane

/-! ## The places of a block -/

namespace WholeBlock

variable {σ : Type}

/-- The cell at a place of memory where a block holds `bytes` from `start` on. -/
def cellAt (start : Address) (bytes : List UInt8) (place : Nat) : Cell :=
  if place < start.value then .placeholder
  else (bytes[place - start.value]?.map .ofByte).getD .placeholder

/-- A cell of a block says nothing about changes. -/
theorem forget_cellAt (start : Address) (bytes : List UInt8) (place : Nat) :
    (cellAt start bytes place).forget = cellAt start bytes place := by
  unfold cellAt
  split
  · rfl
  · cases bytes[place - start.value]? <;> rfl

/-- Where the block begins once it has been read. -/
def startRead (block : WholeBlock σ) (env : σ) : Address := block.start (block.read env).2

/-- The block begins at a word and has fewer bytes than there are words. -/
structure InWords (block : WholeBlock σ) (env : σ) : Prop where
  start : (block.startRead env).value < Word.bound
  length : ∀ bytes, (block.read env).1 = .content bytes → bytes.length < Word.bound

/-- The block begins at the same address and answers alike in both environments. -/
structure Unchanged (block : WholeBlock σ) (env later : σ) : Prop where
  start : block.startRead later = block.startRead env
  reply : (block.read later).1 = (block.read env).1

end WholeBlock

/-- The place of the unit at an address, counted in bytes from the top of a window on. -/
def Layout.place (layout : Layout) (top a : Address) : Nat :=
  top.value + (a.value - top.value) * layout.unit

/-- Counted from two tops, a unit has the same place only if it is one byte or the tops are the
same. -/
theorem Layout.place_eq_iff {layout : Layout} (pos : 0 < layout.unit) {top other a : Address}
    (above : top ≤ a) (besides : other ≤ a) :
    layout.place top a = layout.place other a ↔ layout.unit = 1 ∨ top = other := by
  rw [Address.le_def] at above besides
  obtain ⟨extra, eq⟩ : ∃ extra, layout.unit = extra + 1 := ⟨layout.unit - 1, by omega⟩
  have place (base : Address) (below : base.value ≤ a.value) :
      layout.place base a = a.value + (a.value - base.value) * extra := by
    rw [Layout.place, eq, Nat.mul_succ]
    omega
  rw [place top above, place other besides, Nat.add_left_cancel_iff, Address.ext_iff]
  rcases Nat.eq_zero_or_pos extra with rfl | more
  · exact iff_of_true rfl (.inl eq)
  · rw [Nat.mul_right_cancel_iff more]
    omega

/-- A block that begins in the window stands behind a gap. -/
theorem placeBlock_of_le {start top : Address} (above : top ≤ start)
    (word : start.value - top.value < Word.bound) (room : Nat) (bytes : List UInt8) :
    placeBlock start top room bytes =
      List.replicate (min (start.value - top.value) room) .placeholder ++
        (bytes.take (room - min (start.value - top.value) room)).map .ofByte := by
  have distance : top.distanceTo? start = some (start.value - top.value) := by
    rw [Address.distanceTo?_of_le above, Word.ofNat?, if_pos word]
  rw [placeBlock, distance]

/-- A block that begins below the window lacks what lies below. -/
theorem placeBlock_of_lt {start top : Address} (below : start < top) {bytes : List UInt8}
    (length : bytes.length < Word.bound) (room : Nat) :
    placeBlock start top room bytes = (bytes.drop (top.value - start.value)).map .ofByte := by
  rw [placeBlock, Address.distanceTo?_of_lt below]
  dsimp only
  rw [Address.distanceTo?_of_le (Nat.le_of_lt below), Word.ofNat?]
  split
  next => rfl
  next wide =>
      -- where the distance is no word, it exceeds the block, as does the largest word
      rw [Option.getD_none, List.drop_eq_nil_of_le (by unfold Word.top; omega),
        List.drop_eq_nil_of_le (by omega)]

/-- Each cell of a window over a block is the one of its place, counted in bytes from the top. -/
theorem cell_placeBlock {start top : Address} {room k : Nat} {bytes : List UInt8}
    (word : start.value < Word.bound) (length : bytes.length < Word.bound) (inside : k < room) :
    (placeBlock start top room bytes)[k]?.getD .placeholder =
      WholeBlock.cellAt start bytes (top.value + k) := by
  unfold WholeBlock.cellAt
  rcases Nat.lt_or_ge start.value top.value with below | above
  · rw [placeBlock_of_lt below length, if_neg (by omega), List.getElem?_map, List.getElem?_drop]
    congr 3
    omega
  · rw [placeBlock_of_le above (by omega), List.getElem?_append, List.length_replicate]
    split
    next gap =>
        rw [if_pos (by omega), List.getElem?_replicate, if_pos gap]
        rfl
    next behind =>
        have whole : min (start.value - top.value) room = start.value - top.value := by omega
        rw [whole] at behind ⊢
        rw [if_neg (by omega), List.getElem?_map, List.getElem?_take_of_lt (by omega)]
        congr 3
        omega

theorem Source.fst_fetch_of_whole {σ : Type} {source : Source σ} {block : WholeBlock σ}
    (feed : source.feed = .whole block) (top : Address) (extent : Layout.Extent) (env : σ) :
    (source.fetch top extent env).1 =
      (block.read env).1.map (placeBlock (block.startRead env) top extent.bytes) := by
  rw [Source.fetch, feed]
  rfl

namespace Line

/-- The bytes of the unit at an address are the given cells, apart from what they say about
changes. -/
def HoldsAt (layout : Layout) (line : Line) (a : Address) (cells : Nat → Cell) : Prop :=
  ∀ k < layout.unit, ∃ cell, line.unitCell? layout a k = some cell ∧ cell.forget = cells k

/-- The two lines show the same bytes at an address, with the same validity. -/
def AgreesAt (layout : Layout) (line other : Line) (a : Address) : Prop :=
  ∀ k < layout.unit, ∃ cell counterpart, line.unitCell? layout a k = some cell ∧
    other.unitCell? layout a k = some counterpart ∧
    cell.value = counterpart.value ∧ cell.valid = counterpart.valid

variable {layout : Layout} {line other : Line} {a : Address} {cells : Nat → Cell}

theorem HoldsAt.agreesAt (here : line.HoldsAt layout a cells)
    (there : other.HoldsAt layout a cells) : line.AgreesAt layout other a := by
  intro k inside
  rcases here k inside with ⟨cell, own, eq⟩
  rcases there k inside with ⟨counterpart, its, same⟩
  have forgotten : cell.forget = counterpart.forget := eq.trans same.symm
  exact ⟨cell, counterpart, own, its, (congrArg Cell.value forgotten :),
    (congrArg Cell.valid forgotten :)⟩

end Line

namespace Pane

variable {σ η : Type} [Host η] {pane : Pane σ η} {block : WholeBlock σ} {env : σ}

/-! ## The lines of a window over a block -/

/-- A load that succeeded placed all bytes of the block in the window. -/
theorem exists_bytes_of_loaded (feed : pane.source.feed = .whole block) {start : Address}
    {lines : Nat} {afresh : Bool} (loaded : (pane.loadAt start lines afresh env).1 = .loaded) :
    let top := start.alignDown pane.layout.alignment
    let room := pane.layout.width * lines
    ∃ bytes host, (block.read env).1 = .content bytes ∧
      (pane.loadAt start lines afresh env).2.1 =
        { pane.rebuild top (padCells room (placeBlock (block.startRead env) top room bytes))
            afresh with host } := by
  intro top room
  rcases exists_answer_of_loaded loaded with ⟨answer, host, answered, rebuilt⟩
  rw [Source.fst_fetch_of_whole feed] at answered
  cases reply : (block.read env).1 with
  | nothing | failed =>
      rw [reply] at answered
      contradiction
  | content bytes =>
      rw [reply] at answered
      obtain rfl := Reply.content.inj answered
      exact ⟨bytes, host, rfl, rebuilt⟩

/-- A window over a block is made of the cells of its places, apart from what it says about
changes. -/
theorem cells_rebuild_placeBlock (usable : pane.layout.Usable) {start top : Address}
    {bytes : List UInt8} (word : start.value < Word.bound) (length : bytes.length < Word.bound)
    (lines : Nat) (afresh : Bool) :
    let room := pane.layout.width * lines
    ∀ line ∈ (pane.rebuild top (padCells room (placeBlock start top room bytes)) afresh).window,
      top ≤ line.address ∧
        line.cells.map Cell.forget = (List.range pane.layout.width).map fun k =>
          WholeBlock.cellAt start bytes
            (top.value + (line.address.value - top.value) * pane.layout.unit + k) := by
  intro room line member
  rcases List.mem_iff_getElem?.mp member with ⟨i, here⟩
  obtain ⟨fresh, rfl, inside, address, -, cells⟩ :=
    exists_fresh_of_rebuild usable (length_padCells _ _) here
  have bare := congrArg Line.cells (pane.bare_highlight afresh fresh)
  rw [Line.cells_bare, Line.cells_bare] at bare
  -- a line further up is `lineUnits` units and `width` bytes further up
  rw [address_highlight, bare, cells, address, Address.value_offset, Nat.add_sub_cancel_left,
    Nat.mul_assoc, usable.lineUnits_mul_unit, take_drop_padCells inside, List.map_map]
  refine ⟨Nat.le_add_right _ _, List.map_congr_left fun k member => ?_⟩
  have present : k < pane.layout.width := List.mem_range.mp member
  have fits : (i + 1) * pane.layout.width ≤ lines * pane.layout.width :=
    Nat.mul_le_mul_right _ inside
  rw [Nat.succ_mul, Nat.mul_comm lines] at fits
  have asked : i * pane.layout.width + k < pane.layout.width * lines := by omega
  rw [Function.comp_apply, cell_placeBlock word length asked, WholeBlock.forget_cellAt,
    Nat.add_assoc]

/-- After a load that succeeded, each line is made of the cells of its places, apart from what it
says about changes. -/
theorem cells_of_loaded (usable : pane.layout.Usable) (feed : pane.source.feed = .whole block)
    (words : block.InWords env) {load : Action σ η} (happens : load.env? = some env)
    (loaded : pane.outcome? load = some .loaded) :
    ∃ top bytes, (pane.act load).top = some top ∧ (block.read env).1 = .content bytes ∧
      ∀ line ∈ (pane.act load).window, top ≤ line.address ∧
        line.cells.map Cell.forget = (List.range pane.layout.width).map fun k =>
          WholeBlock.cellAt (block.startRead env) bytes
            (top.value + (line.address.value - top.value) * pane.layout.unit + k) := by
  obtain ⟨start, lines, afresh, env', viewport, happened, built, eq⟩ :=
    exists_loadAt_of_outcome? loaded
  obtain rfl : env = env' := Option.some.inj (happens.symm.trans happened)
  obtain ⟨bytes, host, reply, rebuilt⟩ := exists_bytes_of_loaded feed built
  rw [eq, rebuilt]
  exact ⟨start.alignDown pane.layout.alignment, bytes, rfl, reply,
    cells_rebuild_placeBlock usable words.start (words.length bytes reply) lines afresh⟩

/-- After a load that succeeded, each unit holds the bytes from its place on. -/
theorem holdsAt_of_loaded (usable : pane.layout.Usable) (feed : pane.source.feed = .whole block)
    (words : block.InWords env) {load : Action σ η} (happens : load.env? = some env)
    (loaded : pane.outcome? load = some .loaded) :
    ∃ top bytes, (pane.act load).top = some top ∧ (block.read env).1 = .content bytes ∧
      ∀ line ∈ (pane.act load).window, ∀ a, line.Covers pane.layout a → top ≤ a ∧
        line.HoldsAt pane.layout a fun k =>
          WholeBlock.cellAt (block.startRead env) bytes (pane.layout.place top a + k) := by
  obtain ⟨top, bytes, shown, reply, lines⟩ := cells_of_loaded usable feed words happens loaded
  refine ⟨top, bytes, shown, reply, fun line member a covers => ?_⟩
  obtain ⟨stands, cells⟩ := lines line member
  have full : line.size = pane.layout.width := by
    simpa [Line.size] using congrArg List.length cells
  obtain ⟨low, -⟩ := id covers
  rw [Address.le_def] at stands low ⊢
  refine ⟨by omega, fun k inside => ?_⟩
  rcases Line.exists_unitCell usable full covers inside with ⟨cell, here⟩
  refine ⟨cell, here, ?_⟩
  rw [Line.unitCell?] at here
  have asked : (a.value - line.address.value) * pane.layout.unit + k < pane.layout.width :=
    full ▸ (List.getElem?_eq_some_iff.mp here).1
  have own : (line.cells.map Cell.forget)[(a.value - line.address.value) * pane.layout.unit + k]? =
      some cell.forget := by
    rw [List.getElem?_map, here]
    rfl
  rw [cells, List.getElem?_map, List.getElem?_range asked] at own
  -- the address is as many units above the top as the line is, and those within the line
  have units : a.value - top.value =
      (line.address.value - top.value) + (a.value - line.address.value) := by omega
  rw [← Option.some.inj own]
  dsimp only
  rw [Layout.place, units, Nat.add_mul, ← Nat.add_assoc, ← Nat.add_assoc]

/-- However two windows of an unchanged block were loaded, each holds at an address the bytes of the
place that the address has when it is counted from the top of that window. So they agree on an
address that both cover if units are single bytes, or if both windows have the same top. -/
theorem agreesAt_of_loaded {first second : Pane σ η} {later : σ} {load reload : Action σ η}
    (usable : first.layout.Usable) (feed : first.source.feed = .whole block)
    (source : second.source = first.source) (layout : second.layout = first.layout)
    (words : block.InWords env) (unchanged : block.Unchanged env later)
    (happens : load.env? = some env) (happensLater : reload.env? = some later)
    (loaded : first.outcome? load = some .loaded)
    (reloaded : second.outcome? reload = some .loaded) :
    ∃ top other bytes, (first.act load).top = some top ∧ (second.act reload).top = some other ∧
      (block.read env).1 = .content bytes ∧
      ∀ line ∈ (first.act load).window, ∀ counterpart ∈ (second.act reload).window, ∀ a,
        line.Covers first.layout a → counterpart.Covers first.layout a →
          (line.HoldsAt first.layout a fun k =>
            WholeBlock.cellAt (block.startRead env) bytes (first.layout.place top a + k)) ∧
          (counterpart.HoldsAt first.layout a fun k =>
            WholeBlock.cellAt (block.startRead env) bytes (first.layout.place other a + k)) ∧
          (first.layout.unit = 1 ∨ top = other → line.AgreesAt first.layout counterpart a) := by
  have same : block.InWords later :=
    ⟨unchanged.start ▸ words.start, unchanged.reply ▸ words.length⟩
  obtain ⟨top, bytes, shown, reply, held⟩ :=
    holdsAt_of_loaded usable feed words happens loaded
  obtain ⟨other, answer, stands, answered, holds⟩ :=
    holdsAt_of_loaded (layout ▸ usable) (source ▸ feed) same happensLater reloaded
  obtain rfl : answer = bytes :=
    Reply.content.inj (answered.symm.trans (unchanged.reply.trans reply))
  rw [layout, unchanged.start] at holds
  refine ⟨top, other, answer, shown, stands, reply, ?_⟩
  intro line member counterpart corresponds a covers covered
  obtain ⟨above, here⟩ := held line member a covers
  obtain ⟨besides, there⟩ := holds counterpart corresponds a covered
  refine ⟨here, there, fun fits => ?_⟩
  have place := (Layout.place_eq_iff usable.unit_pos above besides).mpr fits
  rw [place] at here
  exact here.agreesAt there

namespace Sample

/-- The image as one block, in units of `unit` bytes. -/
def whole (unit alignment : Nat) : Pane Image Recorder where
  source := Image.source ⟨1⟩ ⟨1⟩ (.whole Image.wholeBlock)
  host := {}
  layout := { unit, alignment }

theorem inWords : Image.wholeBlock.InWords image :=
  ⟨by decide, fun bytes answer => by
    rw [← Reply.content.inj answer]
    decide⟩

end Sample

/-- Two windows of one line, which begin below the block and within it. -/
theorem agreesAt_of_loaded_sample :
    let pane := Sample.whole 1 1
    let later := (Image.wholeBlock.read Sample.image).2
    let first := pane.act (.loadAt ⟨0xffc⟩ 1 false Sample.image)
    let second := pane.act (.loadAt ⟨0x1005⟩ 1 true later)
    first.window.map Line.address = [⟨0xffc⟩] ∧ second.window.map Line.address = [⟨0x1005⟩] ∧
      ∀ line ∈ first.window, ∀ counterpart ∈ second.window, ∀ a, line.Covers pane.layout a →
        counterpart.Covers pane.layout a → line.AgreesAt pane.layout counterpart a := by
  intro pane later first second
  have usable : pane.layout.Usable := ⟨by decide, by decide, by decide, by decide⟩
  have unchanged : Image.wholeBlock.Unchanged Sample.image later := ⟨rfl, rfl⟩
  have loaded : pane.outcome? (.loadAt ⟨0xffc⟩ 1 false Sample.image) = some .loaded := by
    decide +kernel
  have reloaded : pane.outcome? (.loadAt ⟨0x1005⟩ 1 true later) = some .loaded := by
    decide +kernel
  obtain ⟨top, other, bytes, -, -, -, agree⟩ :=
    agreesAt_of_loaded usable rfl rfl rfl Sample.inWords unchanged rfl rfl loaded reloaded
  refine ⟨by decide +kernel, by decide +kernel, ?_⟩
  intro line member counterpart corresponds a covers covered
  exact (agree line member counterpart corresponds a covers covered).2.2 (.inl rfl)

/-- With larger units two windows of one block can disagree on an address: in the third line of the
one stands nothing, and in the only line of the other the seventeenth byte. -/
theorem not_forall_agreesAt :
    ¬ ∀ (pane : Pane Image Recorder) (env later : Image) (load reload : Action Image Recorder),
      pane.Reachable → pane.source.feed = .whole Image.wholeBlock →
      Image.wholeBlock.InWords env → Image.wholeBlock.Unchanged env later →
      load.env? = some env → reload.env? = some later →
      pane.outcome? load = some .loaded → pane.outcome? reload = some .loaded →
      ∀ line ∈ (pane.act load).window, ∀ counterpart ∈ (pane.act reload).window, ∀ a,
        line.Covers pane.layout a → counterpart.Covers pane.layout a →
          line.AgreesAt pane.layout counterpart a := by
  intro agree
  let pane := Sample.whole 2 16
  let load : Action Image Recorder := .loadAt ⟨0x1000⟩ 3 false Sample.image
  let reload : Action Image Recorder := .loadAt ⟨0x1010⟩ 1 false Sample.image
  let third := (pane.act load).window.get ⟨2, by decide +kernel⟩
  let only := (pane.act reload).window.get ⟨0, by decide +kernel⟩
  have reach : pane.Reachable :=
    ⟨pane.source, {}, pane.layout, {}, pane, [],
      create_eq_ok_iff.mpr ⟨⟨by decide, by decide, by decide, by decide⟩, rfl⟩, rfl⟩
  obtain ⟨cell, counterpart, here, there, -, valid⟩ :=
    agree pane Sample.image Sample.image load reload reach rfl Sample.inWords ⟨rfl, rfl⟩ rfl rfl
      (by decide +kernel) (by decide +kernel) third (List.get_mem _ _) only (List.get_mem _ _)
      ⟨0x1010⟩ (by decide +kernel) (by decide +kernel) 0 (by decide)
  have apart : (third.unitCell? pane.layout ⟨0x1010⟩ 0).map Cell.valid ≠
      (only.unitCell? pane.layout ⟨0x1010⟩ 0).map Cell.valid := by decide +kernel
  rw [here, there] at apart
  exact apart (congrArg some valid)

end Pane

end MemoryPane
