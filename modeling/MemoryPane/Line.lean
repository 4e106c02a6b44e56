import MemoryPane.Address.Hex
import MemoryPane.Cell

/-!
A line is a run of cells at one address, as one row of a view shows it.
-/

namespace MemoryPane

/-- One line of a view. -/
@[ext]
structure Line where
  /-- Address of the first cell. -/
  address : Address
  cells : List Cell
  /-- Position within the window. -/
  index : Nat
  /-- The change states of this line can be relied on. -/
  reliable : Bool := false
  /-- Shown in place of each byte that is no content. -/
  filler : String
  deriving DecidableEq

namespace Line

def size (line : Line) : Nat := line.cells.length

def hasChanges (line : Line) : Bool := line.cells.any Cell.isChanged

def allKnown (line : Line) : Bool := line.cells.all Cell.isKnown

def values (line : Line) : List UInt8 := line.cells.map Cell.value

/-- What the bytes of a line are, apart from their change states and marks. -/
def contents (line : Line) : List (Option UInt8) := line.cells.map Cell.content?

def mapCells (f : Cell → Cell) (line : Line) : Line := { line with cells := line.cells.map f }

/-- The line with nothing known about changes. -/
def forget (line : Line) : Line := line.mapCells Cell.forget

/-- The line with no byte changed; what was known stays known. -/
def settle (line : Line) : Line := line.mapCells Cell.settle

@[simp] theorem cells_mapCells (f : Cell → Cell) (line : Line) :
    (line.mapCells f).cells = line.cells.map f := rfl

@[simp] theorem length_contents (line : Line) : line.contents.length = line.size :=
  List.length_map _

@[simp] theorem hasChanges_settle (line : Line) : line.settle.hasChanges = false := by
  simp [hasChanges, settle]

end Line

end MemoryPane
