import Mathlib.Algebra.GroupWithZero.Nat
import MemoryPane.Highlight

/-!
What highlighting does to each cell. `Line.cell_highlight` gives the change state of every cell of a
highlighted line in terms of its own content and of its partner's, provided that the earlier line
has no changed byte; the two ways of highlighting then mark the same bytes as changed, and differ
only in what they call known. Nothing else of a line moves: a line is `bare` without all that is
said about changes, and highlighting keeps the bare line (`Line.bare_highlight`).
-/

namespace MemoryPane

/-! ## Cells -/

namespace Cell

@[simp] theorem forget_forget (c : Cell) : c.forget.forget = c.forget := rfl

@[simp] theorem valid_settle (c : Cell) : c.settle.valid = c.valid := rfl

@[simp] theorem value_inherit (c previous : Cell) : (c.inherit previous).value = c.value := rfl

@[simp] theorem valid_inherit (c previous : Cell) : (c.inherit previous).valid = c.valid := rfl

@[simp] theorem forget_inherit (c previous : Cell) : (c.inherit previous).forget = c.forget := rfl

@[simp] theorem isKnown_inherit (c previous : Cell) :
    (c.inherit previous).isKnown = previous.isKnown := rfl

@[simp] theorem isChanged_inherit (c previous : Cell) :
    (c.inherit previous).isChanged = previous.isChanged := rfl

@[simp] theorem forget_compareWith (c previous : Cell) :
    (c.compareWith previous).forget = c.forget := by
  unfold compareWith
  split <;> rfl

@[simp] theorem value_compareWith (c previous : Cell) :
    (c.compareWith previous).value = c.value := by
  unfold compareWith
  split <;> rfl

@[simp] theorem valid_compareWith (c previous : Cell) :
    (c.compareWith previous).valid = c.valid := by
  unfold compareWith
  split <;> rfl

@[simp] theorem isKnown_compareWith (c previous : Cell) :
    (c.compareWith previous).isKnown = (c.valid && previous.valid) := by
  unfold compareWith
  cases both : c.valid && previous.valid with
  | false => rfl
  | true => cases differ : c.value != previous.value <;> simp [setChanged, isKnown]

@[simp] theorem isChanged_compareWith (c previous : Cell) :
    (c.compareWith previous).isChanged =
      (c.valid && previous.valid && c.value != previous.value) := by
  unfold compareWith
  cases both : c.valid && previous.valid with
  | false => rfl
  | true => cases differ : c.value != previous.value <;> simp [setChanged, isChanged]

/-- A byte is known to have changed only if something is known about it. -/
theorem isKnown_of_isChanged {c : Cell} (changed : c.isChanged = true) : c.isKnown = true := by
  have state : c.change = .changed := by simpa [isChanged] using changed
  simp [isKnown, state]

/-- Settling leaves a cell alone that is not changed. -/
theorem settle_of_not_isChanged {c : Cell} (calm : c.isChanged = false) : c.settle = c := by
  have state : c.change ≠ .changed := by simpa [isChanged] using calm
  simp [settle, state]

end Cell

/-! ## Lines -/

namespace Line

/-- The line with nothing said about changes. -/
def bare (line : Line) : Line := { line.forget with reliable := false }

@[simp] theorem address_bare (line : Line) : line.bare.address = line.address := rfl

@[simp] theorem filler_bare (line : Line) : line.bare.filler = line.filler := rfl

@[simp] theorem cells_bare (line : Line) : line.bare.cells = line.cells.map Cell.forget := rfl

@[simp] theorem size_bare (line : Line) : line.bare.size = line.size := by
  rw [size, size, cells_bare, List.length_map]

@[simp] theorem bare_forget (line : Line) : line.forget.bare = line.bare := by
  simp [bare, forget, mapCells]

/-- A line without changed bytes is settled. -/
theorem settle_of_not_hasChanges {line : Line} (calm : line.hasChanges = false) :
    line.settle = line := by
  have still : ∀ cell ∈ line.cells, cell.settle = cell := by
    intro cell member
    apply Cell.settle_of_not_isChanged
    simpa using List.any_eq_false.mp calm cell member
  have cells : line.cells.map Cell.settle = line.cells := by
    rw [List.map_congr_left still, List.map_id']
  simp [settle, mapCells, cells]

theorem joinCells_eq_zipWith (f : Cell → Cell → Cell) {cells earlier : List Cell}
    (same : cells.length = earlier.length) :
    joinCells f cells earlier = List.zipWith f cells earlier := by
  fun_induction joinCells f cells earlier with
  | case1 cell cells partner earlier ih =>
      rw [List.zipWith_cons_cons, ih (by simpa using same)]
  | case2 cells earlier apart =>
      cases cells with
      | nil => rfl
      | cons cell cells =>
          cases earlier with
          | nil => simp at same
          | cons partner earlier => exact (apart cell cells partner earlier rfl rfl).elim

theorem map_forget_joinCells {f : Cell → Cell → Cell}
    (keeps : ∀ c previous, (f c previous).forget = c.forget) (cells earlier : List Cell) :
    (joinCells f cells earlier).map Cell.forget = cells.map Cell.forget := by
  fun_induction joinCells f cells earlier with
  | case1 cell cells partner earlier ih => simp [keeps, ih]
  | case2 => rfl

/-- Highlighting moves nothing but the change states. -/
theorem bare_highlight (line earlier : Line) (afresh : Bool) :
    (line.highlight earlier afresh).1.bare = line.bare := by
  have anew := map_forget_joinCells Cell.forget_compareWith line.cells earlier.cells
  have kept := map_forget_joinCells Cell.forget_inherit line.cells earlier.cells
  unfold highlight
  split
  · simp [compareAfresh, bare, forget, mapCells, anew]
  · simp [carryOver, bare, forget, mapCells, kept]

theorem reliable_highlight (line earlier : Line) (afresh : Bool) :
    (line.highlight earlier afresh).1.reliable = line.reliable := by
  unfold highlight
  split <;> rfl

variable {line earlier : Line} {afresh : Bool}

/-- Lines that do not differ as content agree wherever both have a cell. -/
theorem content_eq_of_mem_zip (same : line.contentDiffers earlier = false) {cell before : Cell}
    (pair : (cell, before) ∈ line.cells.zip earlier.cells) :
    cell.value = before.value ∧ cell.valid = before.valid := by
  unfold contentDiffers at same
  have none : cell.contentDiffers before = false := by
    simpa using List.any_eq_false.mp (Bool.or_eq_false_iff.mp same).2 _ pair
  simpa [Cell.contentDiffers] using none

/-- Lines of one size that do not differ as content agree cell by cell. -/
theorem content_eq_of_not_contentDiffers (same : line.contentDiffers earlier = false)
    {k : Nat} {cell before : Cell} (here : line.cells[k]? = some cell)
    (there : earlier.cells[k]? = some before) :
    cell.value = before.value ∧ cell.valid = before.valid :=
  content_eq_of_mem_zip same (List.mem_of_getElem? (List.getElem?_zip_eq_some.mpr ⟨here, there⟩))

/-- The change state of a highlighted cell. Which bytes are changed does not depend on `afresh`,
because where the states are taken over the content is the same and nothing is changed. -/
theorem cell_highlight (size : line.size = earlier.size) (settled : earlier.hasChanges = false)
    {k : Nat} {cell : Cell} (here : (line.highlight earlier afresh).1.cells[k]? = some cell) :
    ∃ before, earlier.cells[k]? = some before ∧
      cell.isChanged = (cell.valid && before.valid && cell.value != before.value) ∧
      if afresh || line.contentDiffers earlier then cell.isKnown = (cell.valid && before.valid)
      else cell.isKnown = before.isKnown ∧ cell.valid = before.valid := by
  unfold highlight at here
  split at here
  next anew =>
      rw [compareAfresh, joinCells_eq_zipWith _ size, List.getElem?_zipWith_eq_some] at here
      obtain ⟨fresh, before, -, there, rfl⟩ := here
      exact ⟨before, there, by simp, by simp [anew]⟩
  next reused =>
      -- the contents agree here, and no earlier byte is changed
      rw [carryOver, joinCells_eq_zipWith _ size, List.getElem?_zipWith_eq_some] at here
      obtain ⟨fresh, before, own, there, rfl⟩ := here
      have same : line.contentDiffers earlier = false := by
        simpa using (Bool.or_eq_false_iff.mp (Bool.eq_false_iff.mpr reused)).2
      rcases content_eq_of_not_contentDiffers same own there with ⟨value, valid⟩
      have calm : before.isChanged = false := by
        simpa using List.any_eq_false.mp settled before (List.mem_of_getElem? there)
      exact ⟨before, there, by simp [calm, value], by simp [reused, valid]⟩

/-! ## Content and counts -/

/-- What was read for each byte: its value, and whether it is content. -/
def readings (line : Line) : List (UInt8 × Bool) :=
  line.cells.map fun cell => (cell.value, cell.valid)

@[simp] theorem readings_bare (line : Line) : line.bare.readings = line.readings := by
  rw [readings, cells_bare, List.map_map]
  rfl

@[simp] theorem length_readings (line : Line) : line.readings.length = line.size :=
  List.length_map _

/-- Two lines differ as content exactly if something else was read for them. -/
theorem contentDiffers_eq_false_iff :
    line.contentDiffers earlier = false ↔ line.readings = earlier.readings := by
  constructor
  · intro same
    have size : line.size = earlier.size := by
      simpa using (Bool.or_eq_false_iff.mp same).1
    apply List.ext_getElem
    · rw [length_readings, length_readings, size]
    · intro k here there
      rw [length_readings] at here there
      rcases content_eq_of_not_contentDiffers same (List.getElem?_eq_getElem here)
        (List.getElem?_eq_getElem there) with ⟨value, valid⟩
      simpa [readings] using ⟨value, valid⟩
  · intro same
    have size : line.size = earlier.size := by
      simpa using congrArg List.length same
    have none : ∀ pair ∈ line.cells.zip earlier.cells, pair.1.contentDiffers pair.2 = false := by
      rintro ⟨cell, before⟩ member
      rcases List.mem_iff_getElem?.mp member with ⟨k, at_k⟩
      rcases List.getElem?_zip_eq_some.mp at_k with ⟨here, there⟩
      have equal : line.readings[k]? = earlier.readings[k]? := by rw [same]
      rw [readings, readings, List.getElem?_map, List.getElem?_map, here, there] at equal
      simpa [Cell.contentDiffers] using equal
    unfold contentDiffers
    rw [List.any_eq_false.mpr fun pair member => by simp [none pair member]]
    simp [size]

theorem contentDiffers_eq (line earlier : Line) :
    line.contentDiffers earlier = (line.readings != earlier.readings) := by
  rw [Bool.eq_iff_iff, ← Bool.not_eq_false, contentDiffers_eq_false_iff]
  simp

/-- Highlighting leaves what was read for the line. -/
@[simp] theorem readings_highlight (line earlier : Line) (afresh : Bool) :
    (line.highlight earlier afresh).1.readings = line.readings := by
  rw [← readings_bare, bare_highlight, readings_bare]

/-- Which bytes of a highlighted line are changed, in one form for both ways of highlighting. -/
theorem map_isChanged_highlight (size : line.size = earlier.size)
    (settled : earlier.hasChanges = false) :
    (line.highlight earlier afresh).1.cells.map Cell.isChanged =
      List.zipWith (fun cell before => cell.valid && before.valid && cell.value != before.value)
        line.cells earlier.cells := by
  unfold highlight
  split
  next =>
      rw [compareAfresh, joinCells_eq_zipWith _ size, List.map_zipWith]
      simp only [Cell.isChanged_compareWith]
  next reused =>
      have same : line.contentDiffers earlier = false := by
        simpa using (Bool.or_eq_false_iff.mp (Bool.eq_false_iff.mpr reused)).2
      rw [carryOver, joinCells_eq_zipWith _ size, List.map_zipWith]
      simp only [Cell.isChanged_inherit, ← List.map_uncurry_zip_eq_zipWith]
      refine List.map_congr_left fun ⟨cell, before⟩ member => ?_
      -- neither side has a changed byte here: the earlier line is settled, and the values agree
      have calm : before.isChanged = false := by
        simpa using List.any_eq_false.mp settled before (List.of_mem_zip member).2
      simp [calm, (content_eq_of_mem_zip same member).1]

/-- A highlighting counts the changed bytes of the line that it leaves. -/
theorem changed_highlight (size : line.size = earlier.size) :
    (line.highlight earlier afresh).2.changed =
      (line.highlight earlier afresh).1.cells.countP Cell.isChanged := by
  unfold highlight
  split
  · rw [compareAfresh, joinCells_eq_zipWith _ size, ← List.map_uncurry_zip_eq_zipWith,
      List.countP_map, List.countP_filter]
    refine List.countP_congr fun ⟨cell, before⟩ _ => ?_
    simp [Function.comp_apply, Function.uncurry_apply_pair, and_comm]
  · rw [carryOver, joinCells_eq_zipWith _ size, ← List.map_uncurry_zip_eq_zipWith,
      List.countP_map]
    rfl

end Line

/-- Tallies are summed part by part. -/
theorem Tally.sum_eq (tallies : List Tally) :
    Tally.sum tallies = {
      compared := (tallies.map Tally.compared).sum
      changed := (tallies.map Tally.changed).sum
      carried := tallies.any Tally.carried } := by
  have onto (start : Tally) : tallies.foldl Tally.add start = {
      compared := start.compared + (tallies.map Tally.compared).sum
      changed := start.changed + (tallies.map Tally.changed).sum
      carried := start.carried || tallies.any Tally.carried } := by
    induction tallies generalizing start with
    | nil => simp
    | cons tally tallies ih =>
        rw [List.foldl_cons, ih]
        simp [Tally.add, Nat.add_assoc, Bool.or_assoc]
  simp [sum, onto]

/-- Where each tally counts in its own cells, their sum counts in the cells of all. -/
theorem Tally.changed_sum {α : Type} (tally : α → Tally) (cells : α → List Cell)
    (counts : Cell → Bool) {items : List α}
    (each : ∀ item ∈ items, (tally item).changed = (cells item).countP counts) :
    (Tally.sum (items.map tally)).changed = (items.flatMap cells).countP counts := by
  simp only [sum_eq, List.countP_flatMap, List.map_map]
  exact congrArg List.sum (List.map_congr_left each)

/-- Where nothing was compared or found, there is nothing to sum up. -/
theorem Tally.sum_of_empty {tallies : List Tally} (empty : ∀ tally ∈ tallies, tally = {}) :
    Tally.sum tallies = {} := by
  rw [List.eq_replicate_iff.mpr ⟨rfl, empty⟩]
  induction tallies.length with
  | zero => rfl
  | succ count ih => exact ih

end MemoryPane
