import MemoryPane.Proofs.Highlight

/-!
The laws of highlighting, for any two lines of one size and whatever they say about changes. Only
the two marks that tell about changes are touched. Which of the two ways of highlighting is taken
follows from what was read for the lines, and so does the number of bytes that are compared
(`compared_highlight`); as what was read stays, highlighting once more changes nothing and counts
the same (`highlight_highlight`). A line that repeats an earlier one takes over its change states,
whichever it had itself (`map_change_highlight`).
-/

namespace MemoryPane

/-! ## Marks -/

/-- The marks that tell of a change state: 4 changed, 8 known. -/
def Change.marks : Change → UInt8
  | unknown => 0
  | same => 8
  | changed => 12

namespace Cell

/-- The two marks that tell about changes. -/
def changeMarks (c : Cell) : UInt8 := c.marks &&& 0x0C

/-- All other marks: read-only, valid, and those without a meaning. -/
def lastingMarks (c : Cell) : UInt8 := c.marks &&& 0xF3

theorem changeMarks_eq (c : Cell) : c.changeMarks = c.change.marks := by
  obtain ⟨value, readOnly, valid, change, spare⟩ := c
  show changeMarks ⟨0, readOnly, valid, change, spare⟩ = change.marks
  cases readOnly <;> cases valid <;> cases change <;> revert spare <;> decide

/-- Forgetting about changes clears the marks that tell about them. -/
theorem lastingMarks_eq (c : Cell) : c.lastingMarks = c.forget.marks := by
  obtain ⟨value, readOnly, valid, change, spare⟩ := c
  show lastingMarks ⟨0, readOnly, valid, change, spare⟩ =
    marks ⟨0, readOnly, valid, .unknown, spare⟩
  cases readOnly <;> cases valid <;> cases change <;> revert spare <;> decide

theorem compareWith_compareWith (c previous : Cell) :
    (c.compareWith previous).compareWith previous = c.compareWith previous := by
  cases both : c.valid && previous.valid <;> simp [compareWith, both, setChanged, forget]

theorem inherit_inherit (c previous : Cell) :
    (c.inherit previous).inherit previous = c.inherit previous := rfl

end Cell

namespace Line

theorem joinCells_joinCells {f : Cell → Cell → Cell}
    (again : ∀ c previous, f (f c previous) previous = f c previous) (cells earlier : List Cell) :
    joinCells f (joinCells f cells earlier) earlier = joinCells f cells earlier := by
  fun_induction joinCells f cells earlier with
  | case1 cell cells partner earlier ih => rw [joinCells, again, ih]
  | case2 cells earlier apart => exact joinCells.eq_2 f cells earlier apart

/-! ## What is counted -/

/-- The line has content at a position. -/
def hasContentAt (line : Line) (k : Nat) : Bool := line.cells[k]?.any Cell.valid

/-- The number of positions at which both lines have content. -/
def overlap (line earlier : Line) : Nat :=
  (List.range line.size).countP fun k => line.hasContentAt k && earlier.hasContentAt k

theorem hasContentAt_eq (line : Line) (k : Nat) :
    line.hasContentAt k = line.readings[k]?.any Prod.snd := by
  rw [hasContentAt, readings, List.getElem?_map, Option.any_map]

theorem overlap_congr {line other : Line} (same : line.readings = other.readings)
    (earlier : Line) : line.overlap earlier = other.overlap earlier := by
  have size : line.size = other.size := by simpa using congrArg List.length same
  simp only [overlap, hasContentAt_eq, same, size]

/-- Counting pairs of a condition on either side is counting positions. -/
theorem countP_zip {α β : Type} (p : α → Bool) (q : β → Bool) (xs : List α) (ys : List β) :
    ((xs.zip ys).countP fun pair => p pair.1 && q pair.2) =
      (List.range xs.length).countP fun k => xs[k]?.any p && ys[k]?.any q := by
  induction xs generalizing ys with
  | nil => rfl
  | cons x xs ih =>
      rw [List.length_cons, List.range_succ_eq_map, List.countP_cons, List.countP_map]
      cases ys with
      | nil => simp
      | cons y ys => simp [ih ys, Function.comp_def, List.countP_cons]

variable {line earlier : Line} {afresh : Bool}

/-- Bytes are compared only where the line is compared anew, and then all that both lines have. -/
theorem compared_highlight (line earlier : Line) (afresh : Bool) :
    (line.highlight earlier afresh).2.compared =
      if afresh || line.readings != earlier.readings then line.overlap earlier else 0 := by
  rw [← contentDiffers_eq, highlight]
  split
  · rw [compareAfresh, ← List.countP_eq_length_filter, countP_zip]
    rfl
  · rfl

theorem carried_highlight (line earlier : Line) (afresh : Bool) :
    (line.highlight earlier afresh).2.carried =
      !(afresh || line.readings != earlier.readings) := by
  rw [← contentDiffers_eq, highlight]
  split
  next anew => rw [anew]; rfl
  next reused => rw [Bool.eq_false_iff.mpr reused]; rfl

theorem carried_highlight_iff :
    (line.highlight earlier afresh).2.carried = true ↔
      afresh = false ∧ line.readings = earlier.readings := by
  simp [carried_highlight]

theorem changed_le_compared (anew : (line.highlight earlier afresh).2.carried = false) :
    (line.highlight earlier afresh).2.changed ≤ (line.highlight earlier afresh).2.compared := by
  unfold highlight at anew ⊢
  split
  · exact List.countP_le_length
  next reused =>
      rw [if_neg reused] at anew
      contradiction

/-! ## Highlighting twice -/

theorem fst_highlight_highlight (line earlier : Line) (afresh : Bool) :
    ((line.highlight earlier afresh).1.highlight earlier afresh).1 =
      (line.highlight earlier afresh).1 := by
  have again : (line.highlight earlier afresh).1.contentDiffers earlier =
      line.contentDiffers earlier := by
    rw [contentDiffers_eq, readings_highlight, contentDiffers_eq]
  rw [highlight, again]
  unfold highlight
  split
  · simp only [compareAfresh, joinCells_joinCells Cell.compareWith_compareWith]
  · simp only [carryOver, joinCells_joinCells Cell.inherit_inherit]

/-- Highlighting once more changes nothing and counts the same. -/
theorem highlight_highlight (size : line.size = earlier.size) :
    (line.highlight earlier afresh).1.highlight earlier afresh = line.highlight earlier afresh := by
  have still := line.fst_highlight_highlight earlier afresh
  have read := line.readings_highlight earlier afresh
  have same : (line.highlight earlier afresh).1.size = earlier.size := by
    rw [← length_readings, read, length_readings, size]
  refine Prod.ext still (Tally.ext ?_ ?_ ?_)
  · rw [compared_highlight, read, overlap_congr read, ← compared_highlight]
  · rw [changed_highlight same, still, changed_highlight size]
  · rw [carried_highlight, read, ← carried_highlight]

/-! ## The laws -/

/-- A line for which the same was read as for an earlier one takes over its change states. -/
theorem map_change_highlight (same : line.readings = earlier.readings) :
    (line.highlight earlier false).1.cells.map Cell.change = earlier.cells.map Cell.change := by
  have size : line.cells.length = earlier.cells.length := by
    simpa [size] using congrArg List.length same
  rw [highlight, contentDiffers_eq_false_iff.mpr same, if_neg (by simp), carryOver,
    joinCells_eq_zipWith _ size, List.map_zipWith]
  calc List.zipWith (fun cell before => (cell.inherit before).change) line.cells earlier.cells
      = (line.cells.zip earlier.cells).map (fun pair => pair.2.change) := by
        rw [← List.map_uncurry_zip_eq_zipWith]
        rfl
    _ = ((line.cells.zip earlier.cells).map Prod.snd).map Cell.change := by
        rw [List.map_map]
        rfl
    _ = earlier.cells.map Cell.change := by rw [List.map_snd_zip (Nat.le_of_eq size.symm)]

/-- What highlighting a line against an earlier one of its size comes to. -/
structure HighlightsTo (line earlier : Line) (afresh : Bool) (after : Line) (tally : Tally) :
    Prop where
  address : after.address = line.address
  index : after.index = line.index
  reliable : after.reliable = line.reliable
  filler : after.filler = line.filler
  values : after.values = line.values
  /-- No marks change but those that tell about changes. -/
  marks : after.cells.map Cell.lastingMarks = line.cells.map Cell.lastingMarks
  /-- Highlighting the outcome in the same way changes nothing more and counts the same. -/
  again : after.highlight earlier afresh = (after, tally)
  changed : tally.changed = after.cells.countP Cell.isChanged
  /-- States are taken over only where nothing else was read and no comparison is asked for. -/
  carried : tally.carried = true ↔ afresh = false ∧ line.readings = earlier.readings
  within : tally.carried = false → tally.changed ≤ tally.compared
  known : ∀ cell ∈ after.cells, cell.isChanged = true → cell.isKnown = true

theorem highlightsTo_highlight (size : line.size = earlier.size) :
    line.HighlightsTo earlier afresh (line.highlight earlier afresh).1
      (line.highlight earlier afresh).2 := by
  have bare := line.bare_highlight earlier afresh
  have cells : (line.highlight earlier afresh).1.cells.map Cell.forget =
      line.cells.map Cell.forget := congrArg Line.cells bare
  have lasting : Cell.lastingMarks = Cell.marks ∘ Cell.forget := funext Cell.lastingMarks_eq
  have values (line : Line) : line.values = (line.cells.map Cell.forget).map Cell.value := by
    rw [List.map_map]
    rfl
  exact {
    address := (congrArg Line.address bare :)
    index := (congrArg Line.index bare :)
    reliable := line.reliable_highlight earlier afresh
    filler := (congrArg Line.filler bare :)
    values := by rw [values, cells, ← values]
    marks := by rw [lasting, ← List.map_map, cells, List.map_map]
    again := highlight_highlight size
    changed := changed_highlight size
    carried := carried_highlight_iff
    within := changed_le_compared
    known := fun _ _ => Cell.isKnown_of_isChanged }

/-- Highlighting keeps to its laws, whatever the two lines say about changes. And if a line was
compared with another, every line for which the same was read takes over its change marks. -/
theorem lawful_highlight (size : line.size = earlier.size) :
    (∀ afresh, line.HighlightsTo earlier afresh (line.highlight earlier afresh).1
      (line.highlight earlier afresh).2) ∧
    ∀ fresh : Line, fresh.readings = (line.compareAfresh earlier).1.readings →
      (fresh.highlight (line.compareAfresh earlier).1 false).1.cells.map Cell.changeMarks =
        (line.compareAfresh earlier).1.cells.map Cell.changeMarks := by
  refine ⟨fun afresh => highlightsTo_highlight size, fun fresh same => ?_⟩
  have marks : Cell.changeMarks = Change.marks ∘ Cell.change := funext Cell.changeMarks_eq
  rw [marks, ← List.map_map, map_change_highlight same, List.map_map]

/-- A byte that keeps its value, one that gets another, and one that is no longer content. Read
once more, the line has the same highlights. -/
theorem lawful_highlight_sample :
    let line : Line := {
      address := ⟨0x2000⟩
      cells := [.ofMarks 1 0x9E, .ofMarks 2 0x0A, .ofMarks 3 0x0D]
      index := 4
      filler := "??" }
    let earlier : Line := {
      address := ⟨0x2000⟩
      cells := [.ofMarks 1 0x02, .ofMarks 5 0x0E, .ofMarks 3 0x02]
      index := 9
      filler := "" }
    let compared := line.highlight earlier true
    compared.1.cells.map Cell.marks = [0x9A, 0x0E, 0x01] ∧ compared.2 = ⟨2, 1, false⟩ ∧
      line.HighlightsTo earlier true compared.1 compared.2 ∧
      (line.highlight compared.1 false).1.cells.map Cell.changeMarks = [0x08, 0x0C, 0x00] := by
  intro line earlier compared
  obtain ⟨laws, repeats⟩ := lawful_highlight (show line.size = earlier.size from rfl)
  exact ⟨by decide, by decide, laws true, (repeats line (by decide)).trans (by decide)⟩

end Line

end MemoryPane
