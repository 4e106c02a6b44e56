import MemoryPane.Chunks
import MemoryPane.Pane

/-!
Loading a window. A load asks the source for memory from an aligned address on, cuts the answer into
lines and highlights each line against the snapshot. If the source fails, the window is built all
the same, of placeholders, and the host shows the failure. `Pane.loadAt` loads a given number of
lines from a given address; `Pane.loadView` loads what the viewport asks for.
-/

namespace MemoryPane

inductive LoadResult where
  /-- The window shows what the source answered. -/
  | loaded
  /-- The source failed, and the window shows placeholders. -/
  | substituted (failure : Failure)
  /-- The target is gone; nothing was done. -/
  | targetGone
  /-- The pane has come to its end; nothing was done. -/
  | disposed
  /-- The window would be too large; nothing was done. -/
  | refused (failure : Failure)
  deriving DecidableEq

namespace LoadResult

def buildsWindow : LoadResult → Bool
  | loaded | substituted _ => true
  | _ => false

/-- Why the load could not show what the source holds. -/
def failure? : LoadResult → Option Failure
  | substituted failure | refused failure => some failure
  | _ => none

end LoadResult

/-! ## The cells of a window -/

/-- The first `count` cells, with placeholders after them if there are fewer. -/
def padCells (count : Nat) (cells : List Cell) : List Cell :=
  (cells.take count).rightpad count .placeholder

/-- Cells from `top` on of a block that begins at `start`: placeholders up to the block where it
begins above, and without what it holds below. There may be more than `room` cells in the second
case, never in the first. -/
def placeBlock (start top : Address) (room : Nat) (bytes : List UInt8) : List Cell :=
  match top.distanceTo? start with
  | some distance =>
    let gap := min distance room
    List.replicate gap .placeholder ++ (bytes.take (room - gap)).map .ofByte
  | none => (bytes.drop ((start.distanceTo? top).getD Word.top)).map .ofByte

/-- Asks the source for the cells of a window that begins at `top`. -/
def Source.fetch {σ : Type} (source : Source σ) (top : Address) (extent : Layout.Extent) (env : σ) :
    Reply (List Cell) × σ :=
  match source.feed with
  | .ranged block => block.read top extent.units env
  | .whole block =>
    let (reply, env) := block.read env
    (reply.map (placeBlock (block.start env) top extent.bytes), env)

/-- The lines of a window that begins at `top`, as yet without highlights. -/
def Layout.lines (layout : Layout) (top : Address) (cells : List Cell) : List Line :=
  (fullChunks layout.width cells).mapIdx fun index cells =>
    { address := top.offset (index * layout.lineUnits), cells, index, filler := layout.filler }

namespace Pane

variable {σ η : Type}

/-! ## What the viewport asks for -/

/-- A load that the viewport asks for, and the viewport with the lines kept ready in it. -/
structure Plan where
  start : Address
  lines : Nat
  viewport : Viewport
  deriving DecidableEq

/-- What to load: a whole block from its start to its end, and of any other the visible lines with
the lines above and below them. Line counts stay within the machine words. -/
def plan (pane : Pane σ η) (env : σ) : Plan :=
  match pane.source.feed with
  | .whole block =>
    let start := block.start env
    let bytes := Word.addCapped (start.misalignment pane.layout.alignment) (block.length env)
    { start
      lines := (bytes + pane.layout.width - 1) / pane.layout.width
      viewport := { pane.viewport with linesAbove := 0, linesBelow := 0 } }
  | .ranged block =>
    let start := pane.viewport.start.getD (block.base env)
    let above := pane.viewport.aboveFor start
    let below := pane.viewport.margin
    { start := start.retreat (above * pane.layout.lineUnits)
      lines := Word.addCapped (Word.addCapped pane.viewport.visibleLines above) below
      viewport := { pane.viewport with linesAbove := above, linesBelow := below } }

/-! ## Loading -/

variable [Host η]

/-- A fresh line with its highlights. Where the source marks changes itself its marks stand, and the
line can be relied on if they are complete. Otherwise the line is compared with the one that the
snapshot holds at its address, but not while the host shows a failure. -/
def highlight (pane : Pane σ η) (afresh : Bool) (line : Line) : Line × Tally :=
  if pane.source.marksChanges then ({ line with reliable := line.allKnown }, {})
  else
    let line := line.forget
    if Host.showsFailure pane.host then (line, {})
    else match pane.snapshot.find? line.address with
      | some earlier => { line with reliable := true }.highlight earlier afresh
      | none => (line, {})

/-- The pane with a new window that begins at `top` and holds `cells`. -/
def rebuild (pane : Pane σ η) (top : Address) (cells : List Cell) (afresh : Bool) : Pane σ η :=
  let highlighted := (pane.layout.lines top cells).map (pane.highlight afresh)
  { pane with
    window := highlighted.map Prod.fst
    tally := .sum (highlighted.map Prod.snd)
    top := some top }

/-- The pane with a window of what the source replied, and the host told about it. -/
def receive (pane : Pane σ η) (top : Address) (extent : Layout.Extent) (afresh : Bool)
    (reply : Reply (List Cell)) : LoadResult × Pane σ η :=
  let pane := pane.rebuild top (padCells extent.bytes (reply.getD [])) afresh
  match reply.failure? with
  | none => (.loaded, { pane with host := Host.showTable pane.host })
  | some failure => (.substituted failure, { pane with host := Host.showFailure failure pane.host })

/-- Loads `lines` lines from the aligned address at or below `start`. With `afresh` every byte is
compared anew. A load that is refused leaves everything as it was. -/
def loadAt (pane : Pane σ η) (start : Address) (lines : Nat) (afresh : Bool) (env : σ) :
    LoadResult × Pane σ η × σ :=
  if pane.disposed then (.disposed, pane, env)
  else if (pane.source.status env).isGone then (.targetGone, pane, env)
  else match pane.layout.extent? lines with
    | none => (.refused (.badConfig (.oversizedWindow lines Layout.windowLimit)), pane, env)
    | some extent =>
      let top := start.alignDown pane.layout.alignment
      let (reply, env) := pane.source.fetch top extent env
      let (outcome, pane) := pane.receive top extent afresh reply
      (outcome, pane, env)

/-- Loads what the viewport asks for. A load that builds a window uses up the wish to compare every
byte anew. -/
def loadView (pane : Pane σ η) (env : σ) : LoadResult × Pane σ η × σ :=
  let plan := pane.plan env
  let (outcome, pane, env) :=
    { pane with viewport := plan.viewport }.loadAt plan.start plan.lines pane.viewport.afresh env
  let afresh := pane.viewport.afresh && !outcome.buildsWindow
  (outcome, { pane with viewport := { pane.viewport with afresh } }, env)

end Pane

end MemoryPane
