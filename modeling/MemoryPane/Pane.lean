import MemoryPane.Highlight
import MemoryPane.Host
import MemoryPane.Layout
import MemoryPane.Snapshot
import MemoryPane.Source
import MemoryPane.Viewport

/-!
A pane shows one source: it holds a window of lines, the snapshot that they are compared with, and
the host that puts them on the screen. Windows are built in `MemoryPane.Pane.Load`; the snapshot
changes only in `MemoryPane.Pane.Refresh`, so that highlights stay where they are while the user
scrolls.
-/

namespace MemoryPane

/-- A pane over a source in the environment `σ`, shown by a host `η`. -/
structure Pane (σ η : Type) where
  source : Source σ
  host : η
  layout : Layout
  viewport : Viewport := {}
  /-- The lines shown, in order of address. -/
  window : List Line := []
  /-- The lines to compare with. -/
  snapshot : Snapshot := ∅
  /-- Address of the first line, once there was a load. -/
  top : Option Address := none
  tally : Tally := {}
  disposed : Bool := false

namespace Pane

variable {σ η : Type}

/-- The layout with the unit that the source declares, if it declares one. -/
def effectiveLayout (source : Source σ) (layout : Layout) : Layout :=
  { layout with unit := source.unit?.getD layout.unit }

/-- A pane that has loaded nothing yet. The unit that the source declares takes the place of the
layout's, and the result must be usable. -/
def create (source : Source σ) (host : η) (layout : Layout) (viewport : Viewport) :
    Except Failure (Pane σ η) := do
  let layout := effectiveLayout source layout
  layout.check
  return { source, host, layout, viewport }

/-- The address that the view takes for the base of the block. -/
def base (pane : Pane σ η) (env : σ) : Address :=
  pane.viewport.base.getD (pane.source.base env)

/-- Bytes in an address: as the source declares, or as inferred from the address. -/
def addressSize (pane : Pane σ η) (a : Address) : Nat :=
  if pane.source.addressSize = 0 then a.inferredSize else pane.source.addressSize

/-- An address as the pane writes it, two upper-case digits for each byte. -/
def addressText (pane : Pane σ η) (a : Address) : String :=
  a.toPaddedHex (pane.addressSize a * 2)

/-- No line of the window shows the address. -/
def isOutOfRange (pane : Pane σ η) (a : Address) : Bool :=
  match pane.window.head?, pane.window.getLast? with
  | some first, some last =>
    !(first.address ≤ a && a < last.address.offset pane.layout.lineUnits)
  | _, _ => true

/-- Ends the pane: it lets go of all lines and will load no more. -/
def dispose (pane : Pane σ η) : Pane σ η :=
  { pane with disposed := true, window := [], snapshot := ∅, top := none }

end Pane

end MemoryPane
