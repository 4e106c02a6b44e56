import MemoryPane.Failure

/-!
The host of a pane is whatever puts it on the screen. A pane tells its host what to show and asks it
two things: whether it is visible, and whether it is showing a failure instead of the table.
-/

namespace MemoryPane

/-- What a pane needs of its host. -/
class Host (η : Type) where
  showFailure : Failure → η → η
  showTable : η → η
  isVisible : η → Bool
  showsFailure : η → Bool
  /-- Learns that there is new content to be loaded. -/
  noticeContent : η → η := id
  /-- Learns that names may have changed. -/
  noticeNames : η → η := id

/-- Either of two kinds of host. -/
instance {α β : Type} [Host α] [Host β] : Host (α ⊕ β) where
  showFailure failure := Sum.map (Host.showFailure failure) (Host.showFailure failure)
  showTable := Sum.map Host.showTable Host.showTable
  isVisible := Sum.elim Host.isVisible Host.isVisible
  showsFailure := Sum.elim Host.showsFailure Host.showsFailure
  noticeContent := Sum.map Host.noticeContent Host.noticeContent
  noticeNames := Sum.map Host.noticeNames Host.noticeNames

/-! ## A host that counts -/

/-- A host without a screen that keeps account of everything it is told. -/
structure Recorder where
  visible : Bool := true
  failing : Bool := false
  /-- The wording of every failure shown, oldest first. -/
  failures : List String := []
  tables : Nat := 0
  contentNotices : Nat := 0
  nameNotices : Nat := 0
  deriving DecidableEq

instance : Host Recorder where
  showFailure failure host :=
    { host with failing := true, failures := host.failures ++ [failure.message] }
  showTable host := { host with failing := false, tables := host.tables + 1 }
  isVisible := Recorder.visible
  showsFailure := Recorder.failing
  noticeContent host := { host with contentNotices := host.contentNotices + 1 }
  noticeNames host := { host with nameNotices := host.nameNotices + 1 }

/-! ## A host with a banner -/

/-- A host that shows a failure in a banner until the table is shown again, and ignores the rest. -/
structure Banner where
  visible : Bool := true
  text : Option String := none
  tables : Nat := 0
  deriving DecidableEq

instance : Host Banner where
  showFailure failure host := { host with text := some failure.message }
  showTable host := { host with text := none, tables := host.tables + 1 }
  isVisible := Banner.visible
  showsFailure host := host.text.isSome

end MemoryPane
