import MemoryPane.Pane.Load
import MemoryPane.Pane.Refresh
import MemoryPane.Text.Quoted
import MemoryPane.Workspace

/-!
A tab is one view of a workspace: a pane, the rendering that writes its lines, and a subscription to
the bus. Events wait in the subscription until the tab catches up; however many of them ask for a
refresh, the content is loaded once at the end. A tab that is not enabled lets all events pass
except the end of a block.
-/

namespace MemoryPane

/-- A line as the user reads it. -/
structure Row where
  address : String
  columns : List String
  /-- For each byte, whether it changed. -/
  changed : List Bool
  reliable : Bool
  deriving DecidableEq

structure Tab (σ η : Type) where
  pane : Pane σ η
  rendering : Rendering
  label : String
  enabled : Bool := true
  /-- The subscription, while there is one. -/
  subscription : Option Subscriber

namespace Tab

variable {σ η : Type}

def isDisposed (tab : Tab σ η) : Bool := tab.pane.disposed

/-- Opens a tab on a source, with a rendering of the workspace's catalog. The rendering is made
first, and stays made if the layout does not fit the source. -/
def create (workspace : Workspace) (source : Source σ) (host : η) (renderingId : String) (env : σ) :
    Except Failure (Tab σ η) × Workspace :=
  match workspace.catalog.obtain renderingId with
  | .error failure => (.error failure, workspace)
  | .ok (made, catalog) =>
    let workspace := { workspace with catalog }
    match Pane.create source host workspace.layout workspace.viewport with
    | .error failure => (.error failure, workspace)
    | .ok pane =>
      let (id, bus) := workspace.bus.subscribe
      (.ok {
        pane
        rendering := made.rendering
        label := (pane.base env).display ++ " <" ++ made.rendering.label ++ ">"
        subscription := some id }, { workspace with bus })

def row (tab : Tab σ η) (line : Line) : Row where
  address := tab.pane.addressText line.address
  columns := tab.rendering.columns line
  changed := line.cells.map Cell.isChanged
  reliable := line.reliable

def rows (tab : Tab σ η) : List Row := tab.pane.window.map tab.row

/-- The tab as diagnostics show it. -/
def describe (tab : Tab σ η) : String :=
  "MemoryTab \x7b label: " ++ Text.quote tab.label ++ ", rendering: " ++
    Text.quote tab.rendering.id ++ ", enabled: " ++ toString tab.enabled ++
    ", disposed: " ++ toString tab.isDisposed ++ ", .. \x7d"

/-- Ends the tab: its subscription is dropped and its pane disposed. -/
def dispose (tab : Tab σ η) (bus : Bus) : Tab σ η × Bus :=
  ({ tab with subscription := none, pane := tab.pane.dispose },
    match tab.subscription with
    | some id => bus.drop id
    | none => bus)

/-- Ends the tab and removes it from the bus right away. -/
def close (tab : Tab σ η) (bus : Bus) : Tab σ η × Bus :=
  tab.dispose <| match tab.subscription with
    | some id => (bus.unsubscribe id).2
    | none => bus

variable [Host η]

def load (tab : Tab σ η) (env : σ) : LoadResult × Tab σ η × σ :=
  let (outcome, pane, env) := tab.pane.loadView env
  (outcome, { tab with pane }, env)

/-- Enables or disables the tab. Enabling one that was disabled drops its highlights and loads. -/
def setEnabled (tab : Tab σ η) (enabled : Bool) (env : σ) : Option LoadResult × Tab σ η × σ :=
  let next := { tab with enabled }
  if !enabled || tab.enabled || tab.isDisposed then (none, next, env)
  else
    let (outcome, next, env) := { next with pane := tab.pane.settle }.load env
    (some outcome, next, env)

structure Digest where
  /-- Events that were about this tab. -/
  handled : Nat := 0
  refreshed : Bool := false
  deriving DecidableEq

/-- The pane after a batch of events, up to the first that ends it. If the tab is not enabled, only
the end of a block counts. -/
def digest (enabled : Bool) (env : σ) : List Event → Pane σ η → Digest × Pane σ η
  | [], pane => ({}, pane)
  | event :: events, pane =>
    if !enabled && !event.isDisposal then digest enabled env events pane
    else
      let (response, pane) := pane.handle event env
      if response = .disposed then ({ handled := 1 }, pane)
      else
        let (rest, pane) := digest enabled env events pane
        ({ handled := rest.handled + response.isRelevant.toNat
           refreshed := rest.refreshed || response = .refreshed }, pane)

/-- Feeds all waiting events to the pane and says how many were about this tab. The tab ends if its
pane did; otherwise the content is loaded if a refresh cycle ran. -/
def catchUp (tab : Tab σ η) (bus : Bus) (env : σ) : Nat × Tab σ η × Bus × σ :=
  match tab.subscription with
  | none => (0, tab, bus, env)
  | some id =>
    let (events, bus) := bus.drain id
    let (digest, pane) := digest tab.enabled env events tab.pane
    let tab := { tab with pane }
    if tab.isDisposed then
      let (tab, bus) := tab.dispose bus
      (digest.handled, tab, bus, env)
    else if digest.refreshed then
      let (_, tab, env) := tab.load env
      (digest.handled, tab, bus, env)
    else (digest.handled, tab, bus, env)

end Tab

end MemoryPane
