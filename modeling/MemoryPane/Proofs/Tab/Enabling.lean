import MemoryPane.Proofs.Pane.Comparison
import MemoryPane.Proofs.Tab.Run

/-!
Enabling a tab that was disabled. The tab settles its snapshot, so that nothing old is highlighted,
and loads. But the snapshot of a tab is settled already, at every moment, and so enabling is loading
and nothing else (`setEnabled_eq_load`): the fresh lines are compared with those of the last refresh
before the tab was disabled, and what differed then is highlighted once more. A tab comes back
without highlights exactly if its lines repeat the snapshot (`plain_setEnabled_iff`).
-/

namespace MemoryPane

namespace Line

/-- Where both lines have content, it is the same. -/
def Repeats (line earlier : Line) : Prop :=
  ∀ (k : Nat) (cell before : Cell), line.cells[k]? = some cell → earlier.cells[k]? = some before →
    cell.valid = true → before.valid = true → cell.value = before.value

/-- A line that was compared has no changed byte exactly if it repeats the earlier line. -/
theorem HighlightedBy.hasChanges_eq_false_iff {line : Line} {earlier? : Option Line} {afresh : Bool}
    (highlighted : line.HighlightedBy earlier? afresh) :
    line.hasChanges = false ↔ ∀ earlier, earlier? = some earlier → line.Repeats earlier := by
  rw [hasChanges, List.any_eq_false]
  constructor
  · rintro calm earlier rfl k cell before here there valid formerly
    obtain ⟨partner, own, changed, -⟩ := (highlighted.compared earlier rfl).2 k cell here
    obtain rfl : partner = before := Option.some.inj (own.symm.trans there)
    have unchanged := calm cell (List.mem_of_getElem? here)
    simpa [changed, valid, formerly] using unchanged
  · intro repeats cell member
    cases earlier? with
    | none => simp [(highlighted.alone rfl).2 cell member]
    | some earlier =>
        rcases List.mem_iff_getElem?.mp member with ⟨k, here⟩
        obtain ⟨before, there, changed, -⟩ := (highlighted.compared earlier rfl).2 k cell here
        intro marked
        rw [changed, Bool.and_eq_true, Bool.and_eq_true, bne_iff_ne] at marked
        obtain ⟨⟨valid, formerly⟩, differ⟩ := marked
        exact differ (repeats earlier rfl k cell before here there valid formerly)

end Line

variable {σ η : Type}

/-- Every line of a window that the view loaded was compared as the snapshot tells. -/
theorem Pane.WellFormed.highlightedBy_of_mem_loadView [Host η] {pane : Pane σ η} {env : σ}
    (wf : pane.WellFormed) (unmarked : pane.source.marksChanges = false)
    (built : (pane.loadView env).1.buildsWindow = true) {line : Line}
    (member : line ∈ (pane.loadView env).2.1.window) :
    line.HighlightedBy (pane.comparand? line.address) pane.viewport.afresh := by
  rw [Pane.loadView_eq] at built member
  rcases Pane.exists_fresh_of_mem_window wf.usable (Pane.buildsWindow_loadAt_iff.mp built) member
    with ⟨fresh, size, bare, rfl⟩
  rw [Pane.address_highlight]
  exact wf.highlightedBy_comparand? unmarked size bare _

namespace Tab

/-- No row of the tab calls a byte changed. -/
def Plain (tab : Tab σ η) : Prop := ∀ row ∈ tab.rows, ∀ changed ∈ row.changed, changed = false

instance (tab : Tab σ η) : Decidable tab.Plain :=
  inferInstanceAs (Decidable (∀ row ∈ tab.rows, ∀ changed ∈ row.changed, changed = false))

theorem plain_iff {tab : Tab σ η} :
    tab.Plain ↔ ∀ line ∈ tab.pane.window, line.hasChanges = false := by
  simp [Plain, rows, row, Line.hasChanges]

variable [Host η] {tab : Tab σ η} {env : σ}

/-- Enabling a tab only loads, because there is nothing to settle in its snapshot. -/
theorem setEnabled_eq_load (reach : tab.Reachable) (off : tab.enabled = false)
    (live : tab.isDisposed = false) :
    tab.setEnabled true env =
      (some ({ tab with enabled := true }.load env).1,
        ({ tab with enabled := true }.load env).2) := by
  rw [setEnabled, if_neg (by simp [off, live]), reach.pane.wellFormed.settle_eq]

/-- Enabling a tab is loading it. The rows then call no byte changed exactly if the lines loaded
repeat those that the snapshot held before. -/
theorem plain_setEnabled_iff (reach : tab.Reachable) (off : tab.enabled = false)
    (live : tab.isDisposed = false) (unmarked : tab.pane.source.marksChanges = false)
    (loaded : (tab.setEnabled true env).1 = some .loaded) :
    tab.setEnabled true env = (some .loaded, ({ tab with enabled := true }.load env).2) ∧
      ((tab.setEnabled true env).2.1.Plain ↔
        ∀ line ∈ (tab.setEnabled true env).2.1.pane.window, ∀ earlier,
          tab.pane.comparand? line.address = some earlier → line.Repeats earlier) := by
  rw [setEnabled_eq_load reach off live] at loaded ⊢
  have built : (tab.pane.loadView env).1.buildsWindow = true := by
    have outcome : (tab.pane.loadView env).1 = .loaded := Option.some.inj loaded
    rw [outcome]
    rfl
  refine ⟨Prod.ext loaded rfl, plain_iff.trans ?_⟩
  refine forall₂_congr fun line member => ?_
  exact (reach.pane.wellFormed.highlightedBy_of_mem_loadView unmarked built
    member).hasChanges_eq_false_iff

namespace Sample

/-- The tab after a write that a refresh and a load have made visible, and then disabled. -/
def disabled : Tab Image Recorder :=
  Sample.tab.run [.onPane (.refresh Pane.Sample.written), .load Pane.Sample.written,
    .setEnabled false Pane.Sample.written]

theorem reachable_disabled : disabled.Reachable := reachable_tab.run _

end Sample

/-- When the byte that was written has its old value again, the tab comes back without
highlights. -/
theorem plain_setEnabled_sample :
    let renewed := (Sample.disabled.setEnabled true Pane.Sample.image).2.1
    renewed.Plain ∧ ∀ line ∈ renewed.pane.window, ∀ earlier,
      Sample.disabled.pane.comparand? line.address = some earlier → line.Repeats earlier := by
  intro renewed
  have plain : renewed.Plain := by decide +kernel
  have same := (plain_setEnabled_iff Sample.reachable_disabled (by decide +kernel)
    (by decide +kernel) rfl (by decide +kernel)).2.mp plain
  exact ⟨plain, same⟩

/-- Otherwise its highlights come back with it, though nothing was written while it was disabled. -/
theorem not_forall_plain_setEnabled :
    ¬ ∀ (tab : Tab Image Recorder) (env : Image), tab.Reachable → tab.enabled = false →
      tab.isDisposed = false → tab.pane.source.marksChanges = false →
      (tab.setEnabled true env).1 = some .loaded → (tab.setEnabled true env).2.1.Plain := by
  intro drops
  have plain := drops Sample.disabled Pane.Sample.written Sample.reachable_disabled
    (by decide +kernel) (by decide +kernel) rfl (by decide +kernel)
  have marked : ¬ (Sample.disabled.setEnabled true Pane.Sample.written).2.1.Plain := by
    decide +kernel
  exact marked plain

end Tab

end MemoryPane
