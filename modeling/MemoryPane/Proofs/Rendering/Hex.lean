import MemoryPane.Proofs.Address.Hex
import MemoryPane.Proofs.Chunks
import MemoryPane.Rendering.Hex

/-!
What the columns of a line hold. Grouping cells into columns begins a column for every `columnSize`
cells (`length_groupedColumns`) and neither loses nor adds a character (`join_groupedColumns`), so
that the text of a line does not depend on the column size. In hexadecimal a cell is written as two
digits or as the filler (`hexText_eq_pairText`).
-/

namespace MemoryPane.Rendering

variable {columnSize : Nat}

theorem length_groupedColumns (pos : 0 < columnSize) (write : Line → Cell → List Char)
    (line : Line) :
    (groupedColumns columnSize write line).length = (line.size + columnSize - 1) / columnSize := by
  rw [groupedColumns, List.length_map, length_chunks pos]
  rfl

theorem join_groupedColumns (pos : 0 < columnSize) (write : Line → Cell → List Char)
    (line : Line) :
    String.join (groupedColumns columnSize write line) =
      String.ofList (line.cells.flatMap (write line)) := by
  rw [← String.toList_inj, String.toList_join, String.toList_ofList, groupedColumns]
  calc
    _ = (chunks columnSize line.cells).flatMap fun column => column.flatMap (write line) := by
      simp [List.flatMap_map]
    _ = (chunks columnSize line.cells).flatten.flatMap (write line) := by
      rw [← List.flatMap_id, List.flatMap_assoc]
      rfl
    _ = line.cells.flatMap (write line) := by rw [flatten_chunks pos]

/-! ## Bytes in hexadecimal -/

theorem high_lt (value : UInt8) : value.toNat / 16 < 16 := by
  have bound := value.toNat_lt
  omega

theorem low_lt (value : UInt8) : value.toNat % 16 < 16 := Nat.mod_lt _ (by decide)

/-- A byte is written as its two digits, the high one first. -/
theorem hexPair_eq (value : UInt8) :
    hexPair value = [upperDigit (value.toNat / 16), upperDigit (value.toNat % 16)] := by
  rw [hexPair, Nat.toDigits_eq_if (by decide)]
  split
  next small =>
      rw [Nat.div_eq_of_lt small, Nat.mod_eq_of_lt small, ← toUpper_digitChar small]
      rfl
  next large =>
      rw [Nat.toDigits_of_lt_base (high_lt value), ← toUpper_digitChar (high_lt value),
        ← toUpper_digitChar (low_lt value)]
      rfl

/-- How a cell appears in hexadecimal: as the two digits of its byte, the high one first, or as the
filler if it is no content. -/
def pairText (filler : String) (cell : Cell) : List Char :=
  match cell.content? with
  | some value => [upperDigit (value.toNat / 16), upperDigit (value.toNat % 16)]
  | none => filler.toList

theorem hexText_eq_pairText (line : Line) : hexText line = pairText line.filler := by
  funext cell
  rw [hexText, pairText, Cell.content?, hexPair_eq]
  cases cell.valid <;> rfl

end MemoryPane.Rendering
