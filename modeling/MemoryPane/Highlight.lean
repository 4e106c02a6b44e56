import MemoryPane.Line

/-!
Highlighting: which bytes of a freshly read line changed since an earlier one at the same address.
Where the content is another, or where it is asked for, every byte is compared anew; where the
content is the same, the line takes over the change states of the earlier one, so that a mere reload
does not make highlights flicker. Bytes that are no content on either side get no change state.
-/

namespace MemoryPane

/-- How much a highlighting compared and found. -/
@[ext]
structure Tally where
  compared : Nat := 0
  changed : Nat := 0
  /-- Some line took over the states of an earlier one. -/
  carried : Bool := false
  deriving DecidableEq

namespace Tally

def add (a b : Tally) : Tally :=
  ⟨a.compared + b.compared, a.changed + b.changed, a.carried || b.carried⟩

def sum (tallies : List Tally) : Tally := tallies.foldl add {}

end Tally

namespace Line

/-- Each cell of `cells` that has a partner in `earlier`, joined with it by `f`; the others stay. -/
def joinCells (f : Cell → Cell → Cell) : List Cell → List Cell → List Cell
  | cell :: cells, partner :: earlier => f cell partner :: joinCells f cells earlier
  | cells, _ => cells

/-- Compares every byte of the line with its partner in `earlier`. -/
def compareAfresh (line earlier : Line) : Line × Tally :=
  let pairs := (line.cells.zip earlier.cells).filter fun pair => pair.1.valid && pair.2.valid
  ({ line with cells := joinCells Cell.compareWith line.cells earlier.cells },
    { compared := pairs.length
      changed := pairs.countP fun pair => pair.1.value != pair.2.value })

/-- Gives every byte of the line the change state of its partner in `earlier`. -/
def carryOver (line earlier : Line) : Line × Tally :=
  ({ line with cells := joinCells Cell.inherit line.cells earlier.cells },
    { changed := (line.cells.zip earlier.cells).countP fun pair => pair.2.isChanged
      carried := true })

/-- The two lines differ as content. -/
def contentDiffers (line earlier : Line) : Bool :=
  line.size != earlier.size ||
    (line.cells.zip earlier.cells).any fun pair => pair.1.contentDiffers pair.2

/-- Highlights the line against `earlier`: compares anew if `afresh` is set or the content is
another, and takes over the earlier states otherwise. -/
def highlight (line earlier : Line) (afresh : Bool) : Line × Tally :=
  if afresh || line.contentDiffers earlier then line.compareAfresh earlier
  else line.carryOver earlier

end Line

end MemoryPane
