import MemoryPane.Address
import MemoryPane.Word

/-!
The viewport says which part of a block a view wants to see: where it starts, how many lines are
visible, and how many more are kept ready above and below them.
-/

namespace MemoryPane

/-- The part of a block that a view wants to see. -/
structure Viewport where
  /-- The first address to show; without one, the base of the block. -/
  start : Option Address := none
  visibleLines : Nat := 20
  linesAbove : Nat := 0
  linesBelow : Nat := 0
  /-- Lines below the visible ones in a load, and the most lines above them. -/
  margin : Nat := 20
  /-- The next load compares every byte anew. -/
  afresh : Bool := false
  /-- The address the view takes for the base of the block, if not the block's own. -/
  base : Option Address := none
  deriving DecidableEq

namespace Viewport

/-- Up to this address there are no lines above the visible ones. -/
def lowStart : Address := ⟨32⟩

/-- Lines to load above a view that starts at `start`: one for every 32 units of the address, but no
more than the margin, and none up to the address 32. -/
def aboveFor (viewport : Viewport) (start : Address) : Nat :=
  if start ≤ lowStart then 0
  else match (start.divide lowStart.value).toWord? with
    | some lines => min lines viewport.margin
    | none => viewport.margin

end Viewport

end MemoryPane
