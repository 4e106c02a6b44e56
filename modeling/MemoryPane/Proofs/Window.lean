import MemoryPane.Pane.Load
import MemoryPane.Proofs.Chunks

/-!
The shape of a window. A usable layout divides each line into whole units; a window of `n` lines is
cut from exactly `n * width` cells; and line `i` of it stands `i` lines above the top and holds the
cells from position `i * width` on (`Layout.getElem?_lines`).

A line covers the addresses of the units it holds. Lines at multiples of the units on a line form a
grid: two of them that cover one address stand at the same address (`Line.address_eq_of_covers`).
-/

namespace MemoryPane

/-! ## Arithmetic of a layout -/

namespace Layout

variable {layout : Layout}

theorem lineUnits_le_width (layout : Layout) : layout.lineUnits ≤ layout.width :=
  Nat.div_le_self _ _

/-- A line holds its units and nothing else. -/
theorem Usable.lineUnits_mul_unit (usable : layout.Usable) :
    layout.lineUnits * layout.unit = layout.width := by
  have unit : max layout.unit 1 = layout.unit := Nat.max_eq_left usable.unit_pos
  rw [lineUnits, unit, Nat.div_mul_cancel usable.unit_dvd_width]

theorem Usable.lineUnits_pos (usable : layout.Usable) : 0 < layout.lineUnits := by
  have product := usable.lineUnits_mul_unit
  have width := usable.width_pos
  apply Nat.pos_of_ne_zero
  intro zero
  rw [zero, Nat.zero_mul] at product
  omega

/-- A window is too large exactly if its bytes exceed the limit; the machine words never decide. -/
theorem extent?_eq (layout : Layout) (lines : Nat) :
    layout.extent? lines =
      if layout.width * lines ≤ windowLimit then
        some ⟨layout.width * lines, layout.lineUnits * lines⟩
      else none := by
  have units : layout.lineUnits * lines ≤ layout.width * lines :=
    Nat.mul_le_mul_right _ layout.lineUnits_le_width
  have limit : windowLimit < Word.bound := by decide
  unfold extent? Word.mul? Word.ofNat?
  by_cases fits : layout.width * lines ≤ windowLimit
  · rw [if_pos (by omega), if_pos (by omega)]
  · by_cases word : layout.width * lines < Word.bound
    · rw [if_pos word, if_pos (by omega), if_neg fits]
      simp only [if_neg fits]
    · rw [if_neg word, if_neg fits]

end Layout

/-! ## Cells and lines of a window -/

@[simp] theorem length_padCells (count : Nat) (cells : List Cell) :
    (padCells count cells).length = count := by
  simp only [padCells, List.rightpad, List.length_append, List.length_take, List.length_replicate]
  omega

theorem padCells_eq (count : Nat) (cells : List Cell) :
    padCells count cells =
      cells.take count ++ List.replicate (count - cells.length) .placeholder := by
  rw [padCells, List.rightpad, List.length_take]
  congr 2
  omega

theorem getElem?_padCells {count k : Nat} (inside : k < count) (cells : List Cell) :
    (padCells count cells)[k]? = some (cells[k]?.getD .placeholder) := by
  rw [padCells, List.rightpad, List.getElem?_append, List.length_take]
  rcases Nat.lt_or_ge k cells.length with present | absent
  · rw [if_pos (by omega), List.getElem?_take_of_lt inside, List.getElem?_eq_getElem present]
    rfl
  · rw [if_neg (by omega), List.getElem?_eq_none absent, List.getElem?_replicate,
      if_pos (by omega)]
    rfl

/-- Line `i` of the padded cells, with a placeholder for each cell that is missing. -/
theorem take_drop_padCells {width count i : Nat} (inside : i < count) (cells : List Cell) :
    ((padCells (width * count) cells).drop (i * width)).take width =
      (List.range width).map fun k => cells[i * width + k]?.getD .placeholder := by
  have room : (i + 1) * width ≤ count * width := Nat.mul_le_mul_right _ inside
  rw [Nat.succ_mul, Nat.mul_comm count] at room
  apply List.ext_getElem?
  intro k
  rw [List.getElem?_map, List.getElem?_take]
  split
  next present =>
      rw [List.getElem?_drop, getElem?_padCells (by omega), List.getElem?_range present,
        Option.map_some]
  next absent =>
      rw [List.getElem?_eq_none (by simpa using absent)]
      rfl

namespace Layout

variable {layout : Layout} {cells : List Cell} {count : Nat}

theorem length_lines (usable : layout.Usable) (length : cells.length = layout.width * count)
    (top : Address) : (layout.lines top cells).length = count := by
  have dvd : layout.width ∣ cells.length := length ▸ Nat.dvd_mul_right _ _
  have pos := usable.width_pos
  rw [lines, fullChunks_eq_chunks dvd, List.length_mapIdx, length_chunks pos, length,
    Nat.add_sub_assoc pos, Nat.mul_add_div pos, Nat.div_eq_of_lt (by omega), Nat.add_zero]

/-- Line `i` of a window stands `i` lines above the top and holds the cells from `i * width` on. -/
theorem getElem?_lines (usable : layout.Usable) (length : cells.length = layout.width * count)
    (top : Address) (i : Nat) :
    (layout.lines top cells)[i]? =
      if i < count then
        some {
          address := top.offset (i * layout.lineUnits)
          cells := (cells.drop (i * layout.width)).take layout.width
          index := i
          filler := layout.filler }
      else none := by
  have dvd : layout.width ∣ cells.length := length ▸ Nat.dvd_mul_right _ _
  have pos := usable.width_pos
  have bound : i * layout.width < cells.length ↔ i < count := by
    rw [length, Nat.mul_comm i, Nat.mul_lt_mul_left pos]
  rw [lines, fullChunks_eq_chunks dvd, List.getElem?_mapIdx, getElem?_chunks pos]
  simp only [bound]
  split <;> rfl

/-- The lines of a window hold all of its cells, one after another. -/
theorem flatMap_cells_lines (usable : layout.Usable) (length : cells.length = layout.width * count)
    (top : Address) : (layout.lines top cells).flatMap Line.cells = cells := by
  have dvd : layout.width ∣ cells.length := length ▸ Nat.dvd_mul_right _ _
  have pieces : (layout.lines top cells).map Line.cells = chunks layout.width cells := by
    apply List.ext_getElem?
    intro i
    rw [lines, fullChunks_eq_chunks dvd, List.getElem?_map, List.getElem?_mapIdx, Option.map_map]
    exact Option.map_id'
  rw [List.flatMap_def, pieces, flatten_chunks usable.width_pos]

/-- The lines of a window are full. -/
theorem size_of_getElem?_lines (usable : layout.Usable)
    (length : cells.length = layout.width * count) {top : Address} {i : Nat} {line : Line}
    (here : (layout.lines top cells)[i]? = some line) : line.size = layout.width := by
  rw [getElem?_lines usable length] at here
  split at here
  next inside =>
      have room : (i + 1) * layout.width ≤ count * layout.width :=
        Nat.mul_le_mul_right _ inside
      rw [Nat.succ_mul, Nat.mul_comm count, ← length] at room
      rw [← Option.some.inj here, Line.size, List.length_take, List.length_drop]
      omega
  next => contradiction

theorem size_of_mem_lines (usable : layout.Usable) (length : cells.length = layout.width * count)
    {top : Address} {line : Line} (member : line ∈ layout.lines top cells) :
    line.size = layout.width := by
  rcases List.mem_iff_getElem?.mp member with ⟨i, here⟩
  exact size_of_getElem?_lines usable length here

end Layout

/-! ## Covered addresses -/

namespace Line

/-- The line holds the unit at the address. -/
def Covers (layout : Layout) (line : Line) (a : Address) : Prop :=
  line.address ≤ a ∧ a < line.address.offset layout.lineUnits

instance (layout : Layout) (line : Line) (a : Address) : Decidable (line.Covers layout a) :=
  inferInstanceAs (Decidable (_ ∧ _))

/-- Byte `k` of the unit at an address that the line covers. -/
def unitCell? (layout : Layout) (line : Line) (a : Address) (k : Nat) : Option Cell :=
  line.cells[(a.value - line.address.value) * layout.unit + k]?

variable {layout : Layout} {line other : Line} {a : Address}

/-- A full line has every byte of every unit it covers. -/
theorem exists_unitCell (usable : layout.Usable) (full : line.size = layout.width)
    (covers : line.Covers layout a) {k : Nat} (inside : k < layout.unit) :
    ∃ cell, line.unitCell? layout a k = some cell := by
  obtain ⟨low, high⟩ := covers
  rw [Address.le_def] at low
  rw [Address.lt_def, Address.value_offset] at high
  have units : a.value - line.address.value + 1 ≤ layout.lineUnits := by omega
  have bytes := Nat.mul_le_mul_right layout.unit units
  rw [usable.lineUnits_mul_unit, Nat.succ_mul, ← full, size] at bytes
  exact ⟨_, List.getElem?_eq_getElem (by omega)⟩

/-- Lines on the grid that cover one address stand at the same address. -/
theorem address_eq_of_covers (here : layout.lineUnits ∣ line.address.value)
    (there : layout.lineUnits ∣ other.address.value) (covers : line.Covers layout a)
    (covered : other.Covers layout a) : line.address = other.address := by
  have start : ∀ {line : Line}, layout.lineUnits ∣ line.address.value → line.Covers layout a →
      line.address.value = layout.lineUnits * (a.value / layout.lineUnits) := by
    rintro line ⟨position, grid⟩ ⟨low, high⟩
    rw [Address.le_def] at low
    rw [Address.lt_def, Address.value_offset] at high
    have quotient : a.value / layout.lineUnits = position := by
      apply Nat.div_eq_of_lt_le
      · rwa [Nat.mul_comm, ← grid]
      · rwa [Nat.succ_mul, Nat.mul_comm, ← grid]
    rw [quotient, grid]
  exact Address.ext ((start here covers).trans (start there covered).symm)

end Line

end MemoryPane
