import MemoryPane.Chunks
import MemoryPane.Line

/-!
A rendering turns a line into columns of text. Most renderings write each cell on its own and join a
fixed number of cells to a column (`Rendering.grouped`), so that a line of `n` cells has
`⌈n / columnSize⌉` columns, whose texts joined do not depend on the column size.
-/

namespace MemoryPane

/-- A way of displaying the cells of a line. -/
structure Rendering where
  id : String
  /-- Names the rendering in titles. -/
  label : String
  columnSize : Nat
  columns : Line → List String

namespace Rendering

/-- The columns of a line whose cells are written by `write`, `columnSize` cells to a column. -/
def groupedColumns (columnSize : Nat) (write : Line → Cell → List Char) (line : Line) :
    List String :=
  (chunks columnSize line.cells).map fun column => String.ofList (column.flatMap (write line))

/-- A rendering that writes each cell by `write`. A column holds at least one cell. -/
def grouped (write : Line → Cell → List Char) (id label : String) (columnSize : Nat) :
    Rendering where
  id
  label
  columnSize := max columnSize 1
  columns := groupedColumns (max columnSize 1) write

end Rendering

end MemoryPane
