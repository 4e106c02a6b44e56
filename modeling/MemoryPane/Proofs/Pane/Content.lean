import MemoryPane.Proofs.Pane.Invariant
import MemoryPane.Proofs.Source.Image

/-!
What a window shows after a load that succeeded. Its lines are cut from the answer of the source,
filled up with placeholders, and highlighted (`exists_fresh_of_rebuild`); over an image, each line
is made of the cells that belong to its addresses (`exists_fresh_of_loaded`), so that it holds what
the image has there (`contents_of_loaded`).
-/

namespace MemoryPane

namespace Line

@[simp] theorem contents_bare (line : Line) : line.bare.contents = line.contents := by
  rw [contents, cells_bare, List.map_map]
  rfl

end Line

namespace Pane

variable {σ η : Type} [Host η] {pane : Pane σ η}

/-- A load that succeeded built a window of what the source answered with. -/
theorem exists_answer_of_loaded {start : Address} {lines : Nat} {afresh : Bool} {env : σ}
    (loaded : (pane.loadAt start lines afresh env).1 = .loaded) :
    ∃ answer host,
      (pane.source.fetch (start.alignDown pane.layout.alignment)
        ⟨pane.layout.width * lines, pane.layout.lineUnits * lines⟩ env).1 = .content answer ∧
      (pane.loadAt start lines afresh env).2.1 =
        { pane.rebuild (start.alignDown pane.layout.alignment)
            (padCells (pane.layout.width * lines) answer) afresh with host } := by
  have accepts : pane.Accepts lines env := by
    apply buildsWindow_loadAt_iff.mp
    rw [loaded]
    rfl
  rw [loadAt_of_accepts accepts] at loaded ⊢
  dsimp only at loaded ⊢
  cases reply : (pane.source.fetch (start.alignDown pane.layout.alignment)
      ⟨pane.layout.width * lines, pane.layout.lineUnits * lines⟩ env).1 with
  | content answer => exact ⟨answer, _, rfl, rfl⟩
  | nothing | failed =>
      rw [reply] at loaded
      contradiction

/-- Line `i` of a rebuilt window holds the cells from position `i * width` on, highlighted. -/
theorem exists_fresh_of_rebuild (usable : pane.layout.Usable) {count i : Nat} {top : Address}
    {cells : List Cell} {afresh : Bool} {line : Line}
    (length : cells.length = pane.layout.width * count)
    (here : (pane.rebuild top cells afresh).window[i]? = some line) :
    ∃ fresh, line = (pane.highlight afresh fresh).1 ∧ i < count ∧
      fresh.address = top.offset (i * pane.layout.lineUnits) ∧
      fresh.filler = pane.layout.filler ∧
      fresh.cells = (cells.drop (i * pane.layout.width)).take pane.layout.width := by
  rw [getElem?_window_rebuild, Option.map_eq_some_iff] at here
  obtain ⟨fresh, own, rfl⟩ := here
  rw [Layout.getElem?_lines usable length] at own
  split at own
  next inside =>
      rw [← Option.some.inj own]
      exact ⟨_, rfl, inside, rfl, rfl, rfl⟩
  next => contradiction

variable {focus : Focus σ Image} {addressSize unit : Nat} {marks : Bool}

omit [Host η] in
/-- A pane over an image has the image's unit. -/
theorem WellFormed.unit_eq_of_feed (wf : pane.WellFormed)
    (feed : pane.source.feed = focus.feed (.ranged (Image.rangedBlock addressSize unit marks))) :
    pane.layout.unit = unit := by
  have eq := wf.unit_eq
  rw [Source.unit?, feed] at eq
  exact eq

/-- After a load that succeeded, each line is one of the cells that belong to its addresses,
highlighted. -/
theorem exists_fresh_of_loaded (wf : pane.WellFormed)
    (feed : pane.source.feed = focus.feed (.ranged (Image.rangedBlock addressSize unit marks)))
    {start : Address} {lines : Nat} {afresh : Bool} {env : σ}
    (words : (focus.get env).InWords unit)
    (loaded : (pane.loadAt start lines afresh env).1 = .loaded) {i : Nat} {line : Line}
    (here : (pane.loadAt start lines afresh env).2.1.window[i]? = some line) :
    ∃ top fresh, (pane.loadAt start lines afresh env).2.1.top = some top ∧
      line = (pane.highlight afresh fresh).1 ∧
      fresh.address = top.offset (i * pane.layout.lineUnits) ∧
      fresh.filler = pane.layout.filler ∧
      fresh.cells = (List.range pane.layout.width).map fun (k : Nat) =>
        (focus.get env).cellAt marks
          (((fresh.address.value : Int) - (focus.get env).base) * pane.layout.unit + k) := by
  rcases exists_answer_of_loaded loaded with ⟨answer, host, answered, eq⟩
  have own := wf.unit_eq_of_feed feed
  have pos : 0 < unit := own ▸ wf.usable.unit_pos
  have product := wf.usable.lineUnits_mul_unit
  rw [eq] at here ⊢
  obtain ⟨fresh, highlighted, inside, address, filler, cells⟩ :=
    exists_fresh_of_rebuild wf.usable (length_padCells _ answer) here
  refine ⟨_, fresh, rfl, highlighted, address, filler, ?_⟩
  rw [Source.fetch, feed] at answered
  have read : (Image.readUnits unit marks (start.alignDown pane.layout.alignment)
      (pane.layout.lineUnits * lines) (focus.get env)).1 = .content answer := answered
  have shift : i * pane.layout.width = i * pane.layout.lineUnits * unit := by
    rw [Nat.mul_assoc, ← own, product]
  have room : (i + 1) * pane.layout.width ≤ lines * pane.layout.width :=
    Nat.mul_le_mul_right _ inside
  rw [Nat.succ_mul, Nat.mul_comm lines] at room
  rw [cells, address, own, Address.value_offset, take_drop_padCells inside]
  refine List.map_congr_left fun k member => ?_
  have present : k < pane.layout.width := List.mem_range.mp member
  have asked : i * pane.layout.width + k < pane.layout.lineUnits * lines * unit := by
    rw [Nat.mul_right_comm, ← own, product]
    omega
  rw [Image.cell_readUnits pos words read asked, shift]
  congr 1
  -- a line further up is `lineUnits` addresses and `width` bytes further up
  rw [Int.natCast_add, Int.natCast_add, Int.natCast_mul _ unit, Int.sub_mul, Int.sub_mul,
    Int.add_mul]
  omega

/-- After a load that succeeded, each line holds what the image has at the addresses of the line. -/
theorem contents_of_loaded (wf : pane.WellFormed)
    (feed : pane.source.feed = focus.feed (.ranged (Image.rangedBlock addressSize unit marks)))
    {start : Address} {lines : Nat} {afresh : Bool} {env : σ}
    (words : (focus.get env).InWords unit)
    (loaded : (pane.loadAt start lines afresh env).1 = .loaded) {i : Nat} {line : Line}
    (here : (pane.loadAt start lines afresh env).2.1.window[i]? = some line) :
    ∃ top, (pane.loadAt start lines afresh env).2.1.top = some top ∧
      line.address = top.offset (i * pane.layout.lineUnits) ∧
      line.filler = pane.layout.filler ∧
      line.contents = (List.range pane.layout.width).map fun (k : Nat) =>
        (focus.get env).byteAt?
          (((line.address.value : Int) - (focus.get env).base) * pane.layout.unit + k) := by
  obtain ⟨top, fresh, shown, rfl, address, filler, cells⟩ :=
    exists_fresh_of_loaded wf feed words loaded here
  have bare := pane.bare_highlight afresh fresh
  have contents := congrArg Line.contents bare
  have filled := congrArg Line.filler bare
  rw [Line.contents_bare, Line.contents_bare] at contents
  rw [Line.filler_bare, Line.filler_bare] at filled
  refine ⟨top, shown, ?_, filled.trans filler, ?_⟩
  · rw [address_highlight, address]
  · rw [contents, address_highlight, Line.contents, cells, List.map_map]
    exact List.map_congr_left fun k _ => Image.content?_cellAt _ marks _

end Pane

end MemoryPane
