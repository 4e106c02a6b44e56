import MemoryPane.Event
import MemoryPane.Pane

/-!
The refresh cycle. When the content of memory may have changed, the lines shown become the snapshot
that the next load is compared with, and the host is asked to load again. Events from the debugger
start this cycle, or end the pane.
-/

namespace MemoryPane

inductive Response where
  | ignored
  /-- The refresh cycle ran; the content should be loaded again. -/
  | refreshed
  /-- The target is gone or the host cannot be seen, so that no refresh cycle ran. -/
  | skipped
  /-- The host was told that names may have changed. -/
  | relabelled
  | disposed
  deriving DecidableEq

namespace Response

def isRelevant : Response → Bool
  | ignored => false
  | _ => true

end Response

namespace Pane

variable {σ η : Type}

/-- The pane with no byte of the snapshot changed. -/
def settle (pane : Pane σ η) : Pane σ η :=
  { pane with snapshot := pane.snapshot.settle }

def clearSnapshot (pane : Pane σ η) : Pane σ η := { pane with snapshot := ∅ }

variable [Host η]

/-- Takes the lines shown as the snapshot for the next load, and says whether the host was asked to
load again. Nothing happens if the pane has ended or the target is gone. If the host cannot be seen
the snapshot is only emptied, and while it shows a failure there are no lines to take. -/
def refresh (pane : Pane σ η) (env : σ) : Bool × Pane σ η :=
  if pane.disposed || (pane.source.status env).isGone then (false, pane)
  else if !Host.isVisible pane.host then (false, pane.clearSnapshot)
  else
    let window :=
      if Host.showsFailure pane.host then pane.window
      else pane.window.map fun line => { line with reliable := true }
    let snapshot := if Host.showsFailure pane.host then ∅ else Snapshot.ofWindow window
    (true,
      { pane with
        window
        snapshot := snapshot.settle
        viewport := { pane.viewport with afresh := true }
        host := Host.noticeContent pane.host })

/-- Runs the refresh cycle in response to an event. -/
def respondRefresh (pane : Pane σ η) (env : σ) : Response × Pane σ η :=
  let (done, pane) := pane.refresh env
  (if done then .refreshed else .skipped, pane)

def handle (pane : Pane σ η) (event : Event) (env : σ) : Response × Pane σ η :=
  match event with
  | .contentChanged block =>
    if block = pane.source.block then pane.respondRefresh env else (.ignored, pane)
  | .suspended target =>
    if target = pane.source.target then pane.respondRefresh env else (.ignored, pane)
  | .stateChanged block =>
    if block = pane.source.block then
      (.relabelled, { pane with host := Host.noticeNames pane.host })
    else (.ignored, pane)
  | .disposed block =>
    if block = pane.source.block then (.disposed, pane.dispose) else (.ignored, pane)

end Pane

end MemoryPane
