import MemoryPane.Bus
import MemoryPane.Layout
import MemoryPane.Rendering.Catalog
import MemoryPane.Viewport

/-!
A workspace is what all views of a session have in common: the user's preferences, the bus that
carries events to them, and the catalog of renderings.
-/

namespace MemoryPane

structure Preferences where
  layout : Layout := {}
  /-- Lines below the visible ones, and the most lines above them. -/
  margin : Nat := 20
  /-- The renderings available from the start. -/
  renderings : List Declaration := Catalog.standardDeclarations
  deriving DecidableEq

structure Workspace where
  preferences : Preferences
  bus : Bus := {}
  catalog : Catalog

namespace Workspace

/-- A workspace for the given preferences. Their layout must be usable, and every rendering must be
one that the catalog can declare. -/
def create (preferences : Preferences) : Except Failure Workspace := do
  preferences.layout.check
  let catalog ← Catalog.ofDeclarations preferences.renderings
  return { preferences, catalog }

def layout (workspace : Workspace) : Layout := workspace.preferences.layout

def viewport (workspace : Workspace) : Viewport := { margin := workspace.preferences.margin }

end Workspace

end MemoryPane
