import MemoryPane.Proofs.Rendering.Hex
import MemoryPane.Rendering.Ascii
import Mathlib.Data.List.Forall2

/-!
The columns of the built-in renderings neither lose nor mix bytes. Column `j` holds the texts of its
own cells and of no others (`Rendering.Groups`). From the columns of the hexadecimal rendering the
bytes can be read back, two characters for each, unless the filler itself looks like a byte
(`Rendering.readPairs`); those of the ASCII rendering hold one character for each byte, which stands
for it (`Rendering.StandsFor`).
-/

namespace MemoryPane

/-- The cells in column `j` if a column holds `size` cells: those from position `j * size` on, up to
the next column or the end of the line. -/
def Line.columnCells (line : Line) (size j : Nat) : List Cell :=
  line.cells.extract (j * size) (min ((j + 1) * size) line.size)

namespace Rendering

variable {size : Nat}

/-! ## Cells and columns -/

/-- The columns hold the texts of the cells of a line in order, `size` cells to a column. -/
structure Groups (text : Cell → List Char) (size : Nat) (line : Line) (columns : List String) :
    Prop where
  /-- There is a column for every `size` cells begun. -/
  count : columns.length = (line.size + size - 1) / size
  column : ∀ (j : Nat) (column : String), columns[j]? = some column →
    column.toList = (line.columnCells size j).flatMap text
  /-- Joined, the columns are the same for every size. -/
  joined : String.join columns = String.ofList (line.cells.flatMap text)

theorem columnCells_eq (line : Line) (size j : Nat) :
    line.columnCells size j = (line.cells.drop (j * size)).take size := by
  rw [Line.columnCells, List.extract_eq_take_drop, List.take_eq_take_iff, List.length_drop,
    Nat.succ_mul, Line.size]
  omega

theorem getElem?_groupedColumns (pos : 0 < size) (write : Line → Cell → List Char) (line : Line)
    (j : Nat) :
    (groupedColumns size write line)[j]? =
      if j * size < line.size then
        some (String.ofList ((line.columnCells size j).flatMap (write line)))
      else none := by
  rw [groupedColumns, List.getElem?_map, getElem?_chunks pos, columnCells_eq]
  show Option.map _ (if j * size < line.size then _ else _) = _
  split <;> rfl

theorem groups_grouped (write : Line → Cell → List Char) (id label : String) (columnSize : Nat)
    (line : Line) :
    Groups (write line) (max columnSize 1) line
      ((grouped write id label columnSize).columns line) := by
  have pos : 0 < max columnSize 1 := Nat.le_max_right _ _
  refine ⟨length_groupedColumns pos write line, ?_, join_groupedColumns pos write line⟩
  intro j column here
  rw [grouped, getElem?_groupedColumns pos] at here
  split at here
  next inside => rw [← Option.some.inj here, String.toList_ofList]
  next => contradiction

/-! ## Bytes in hexadecimal -/

/-- Reads two characters for each byte. Two upper-case digits are a byte, and any other two stand
for one that is unknown. -/
def readPairs : List Char → List (Option UInt8)
  | high :: low :: rest =>
    (if high ∈ digitRow ∧ low ∈ digitRow then some (.ofNat (16 * worth high + worth low))
      else none) :: readPairs rest
  | _ => []

theorem readPairs_byte (value : UInt8) (rest : List Char) :
    readPairs (upperDigit (value.toNat / 16) :: upperDigit (value.toNat % 16) :: rest) =
      some value :: readPairs rest := by
  have digits :
      upperDigit (value.toNat / 16) ∈ digitRow ∧ upperDigit (value.toNat % 16) ∈ digitRow :=
    ⟨upperDigit_mem_digitRow (high_lt value), upperDigit_mem_digitRow (low_lt value)⟩
  rw [readPairs, if_pos digits, worth_upperDigit (high_lt value), worth_upperDigit (low_lt value),
    Nat.div_add_mod, UInt8.ofNat_toNat]

/-- The bytes can be read back if the filler takes as many characters as a byte, and does not look
like one. -/
theorem readPairs_flatMap {filler : String} {first second : Char}
    (two : filler.toList = [first, second]) (unlike : ¬ (first ∈ digitRow ∧ second ∈ digitRow))
    (cells : List Cell) :
    readPairs (cells.flatMap (pairText filler)) = cells.map Cell.content? := by
  induction cells with
  | nil => rfl
  | cons cell rest ih =>
      rw [List.flatMap_cons, List.map_cons, ← ih, pairText]
      cases cell.content? with
      | some value => exact readPairs_byte value _
      | none =>
          dsimp only
          rw [two, List.cons_append, List.cons_append, List.nil_append, readPairs, if_neg unlike]

/-- The columns of the hexadecimal rendering. -/
structure ShowsHex (size : Nat) (line : Line) (columns : List String) : Prop
    extends Groups (pairText line.filler) size line columns where
  decoded : ∀ first second, line.filler.toList = [first, second] →
    ¬ (first ∈ digitRow ∧ second ∈ digitRow) →
      readPairs (String.join columns).toList = line.contents

theorem showsHex_columns (id label : String) (columnSize : Nat) (line : Line) :
    ShowsHex (max columnSize 1) line ((hex id label columnSize).columns line) := by
  have groups := groups_grouped hexText id label columnSize line
  rw [hexText_eq_pairText] at groups
  refine ⟨groups, ?_⟩
  intro first second two unlike
  rw [hex, groups.joined, String.toList_ofList]
  exact readPairs_flatMap two unlike line.cells

/-! ## Bytes as characters -/

/-- The character stands for the cell: printable ASCII for itself, a dot for any other byte, and the
first of the filler, or a question mark, for a cell that is no content. -/
structure StandsFor (filler : String) (cell : Cell) (c : Char) : Prop where
  unknown : cell.valid = false → c = filler.toList.head?.getD '?'
  printable : cell.valid = true → 0x20 ≤ cell.value.toNat → cell.value.toNat ≤ 0x7e →
    c.toNat = cell.value.toNat
  dotted : cell.valid = true → cell.value.toNat < 0x20 ∨ 0x7e < cell.value.toNat → c = '.'

theorem toNat_glyph {value : UInt8} (low : 0x20 ≤ value.toNat) (high : value.toNat ≤ 0x7e) :
    (glyph value).toNat = value.toNat := by
  have printable : 0x20 ≤ value ∧ value ≤ 0x7e :=
    ⟨UInt8.le_iff_toNat_le.mpr low, UInt8.le_iff_toNat_le.mpr high⟩
  have valid : value.toNat.isValidChar := .inl (by omega)
  rw [glyph, if_pos printable, Char.ofNat, dif_pos valid]
  rfl

theorem glyph_of_not_printable {value : UInt8}
    (other : value.toNat < 0x20 ∨ 0x7e < value.toNat) : glyph value = '.' := by
  have unprintable : ¬ (0x20 ≤ value ∧ value ≤ 0x7e) := by
    rw [UInt8.le_iff_toNat_le, UInt8.le_iff_toNat_le]
    show ¬ (0x20 ≤ value.toNat ∧ value.toNat ≤ 0x7e)
    omega
  rw [glyph, if_neg unprintable]

/-- The one character that a cell is written with. -/
def character (line : Line) (cell : Cell) : Char :=
  if cell.valid then glyph cell.value else unknownGlyph line

theorem standsFor_character (line : Line) (cell : Cell) :
    StandsFor line.filler cell (character line cell) := by
  unfold character
  constructor
  · intro unknown
    rw [unknown, unknownGlyph, List.headD_eq_head?_getD]
    rfl
  · intro valid low high
    rw [if_pos valid]
    exact toNat_glyph low high
  · intro valid other
    rw [if_pos valid]
    exact glyph_of_not_printable other

/-- The columns of the ASCII rendering: one character for each byte. -/
structure ShowsAscii (size : Nat) (line : Line) (columns : List String) : Prop
    extends Groups (asciiText line) size line columns where
  characters : ∀ (j : Nat) (column : String), columns[j]? = some column →
    List.Forall₂ (StandsFor line.filler) (line.columnCells size j) column.toList

theorem showsAscii_columns (id label : String) (columnSize : Nat) (line : Line) :
    ShowsAscii (max columnSize 1) line ((ascii id label columnSize).columns line) := by
  have groups := groups_grouped asciiText id label columnSize line
  refine ⟨groups, ?_⟩
  intro j column here
  have text : (line.columnCells (max columnSize 1) j).flatMap (asciiText line) =
      (line.columnCells (max columnSize 1) j).map (character line) :=
    List.map_eq_flatMap.symm
  rw [groups.column j column here, text, List.forall₂_map_right_iff, List.forall₂_same]
  exact fun cell _ => standsFor_character line cell

/-- Whatever the line and the size of the columns, of which zero counts as one, both renderings show
all bytes in order. -/
theorem shows_columns (id label : String) (columnSize : Nat) (line : Line) :
    ShowsHex (max columnSize 1) line ((hex id label columnSize).columns line) ∧
      ShowsAscii (max columnSize 1) line ((ascii id label columnSize).columns line) :=
  ⟨showsHex_columns id label columnSize line, showsAscii_columns id label columnSize line⟩

/-- A letter, a byte that is unknown, and one that cannot be printed, in a column and a half. -/
theorem shows_columns_sample :
    let line : Line :=
      { address := ⟨0⟩
        cells := [.ofByte 0x4a, .placeholder, .ofByte 7]
        index := 0
        filler := "??" }
    let shown := (hex "hex" "Hex" 2).columns line
    shown = ["4A??", "07"] ∧ (ascii "ascii" "ASCII" 2).columns line = ["J?", "."] ∧
      ¬ ('?' ∈ digitRow ∧ '?' ∈ digitRow) ∧
      readPairs (String.join shown).toList = [some 0x4a, none, some 7] := by
  intro line shown
  have two : "??".toList = ['?', '?'] := by decide
  have unlike : ¬ ('?' ∈ digitRow ∧ '?' ∈ digitRow) := by decide
  obtain ⟨hexadecimal, -⟩ := shows_columns "hex" "Hex" 2 line
  exact ⟨by decide +kernel, by decide +kernel, unlike, hexadecimal.decoded '?' '?' two unlike⟩

end Rendering

end MemoryPane
