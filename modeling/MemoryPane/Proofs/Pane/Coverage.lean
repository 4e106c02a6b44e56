import MemoryPane.Proofs.Pane.Invariant
import Mathlib.Logic.ExistsUnique

/-!
Which addresses a window shows. Whether an address is out of range is told by the first line and the
last one alone (`WellFormed.isOutOfRange_eq_false_iff`). But the lines follow one another without a
gap, and an address belongs to the line that stands as many lines above the top as the address does
(`WellFormed.covers_iff`). So the lines agree with the range: one of them covers each address in it,
and none covers any other.
-/

namespace MemoryPane.Pane

variable {σ η : Type} {pane : Pane σ η}

/-! ## The addresses of a window -/

theorem WellFormed.address_eq (wf : pane.WellFormed) {top : Address} (shown : pane.top = some top)
    {i : Nat} {line : Line} (here : pane.window[i]? = some line) :
    line.address = top.offset (i * pane.layout.lineUnits) := by
  rcases wf.placed i line here with ⟨-, -, own, stands, address⟩
  rw [address, Option.some.inj (shown.symm.trans stands)]

/-- The window shows the addresses from its top on as far as its lines go, and no others. -/
theorem WellFormed.isOutOfRange_eq_false_iff (wf : pane.WellFormed) {top : Address}
    (shown : pane.top = some top) (a : Address) :
    pane.isOutOfRange a = false ↔
      top ≤ a ∧ a < top.offset (pane.window.length * pane.layout.lineUnits) := by
  unfold isOutOfRange
  rw [List.head?_eq_getElem?, List.getLast?_eq_getElem?]
  cases count : pane.window.length with
  | zero =>
      rw [List.getElem?_eq_none (by omega), Address.le_def, Address.lt_def, Address.value_offset]
      refine iff_of_false (by simp) ?_
      omega
  | succ last =>
      have first := wf.address_eq shown (List.getElem?_eq_getElem (show 0 < _ by omega))
      have final := wf.address_eq shown (List.getElem?_eq_getElem (show last < _ by omega))
      rw [List.getElem?_eq_getElem (by omega), List.getElem?_eq_getElem (by omega)]
      simp only [Nat.add_sub_cancel, first, final]
      simp only [Bool.not_eq_false', Bool.and_eq_true, decide_eq_true_eq, Address.le_def,
        Address.lt_def, Address.value_offset, Nat.zero_mul, Nat.add_zero, Nat.succ_mul,
        Nat.add_assoc]

/-- A line covers the addresses that lie as many lines above the top as the line does. -/
theorem WellFormed.covers_iff (wf : pane.WellFormed) {top : Address} (shown : pane.top = some top)
    {i : Nat} {line : Line} (here : pane.window[i]? = some line) (a : Address) :
    line.Covers pane.layout a ↔
      top ≤ a ∧ (a.value - top.value) / pane.layout.lineUnits = i := by
  have units := wf.usable.lineUnits_pos
  rw [Line.Covers, wf.address_eq shown here, Nat.div_eq_iff units]
  simp only [Address.le_def, Address.lt_def, Address.value_offset]
  omega

/-- A window that stands nowhere has no lines. -/
theorem WellFormed.window_eq_nil (wf : pane.WellFormed) (nowhere : pane.top = none) :
    pane.window = [] := by
  rw [List.eq_nil_iff_forall_not_mem]
  intro line member
  rcases List.mem_iff_getElem?.mp member with ⟨i, here⟩
  rcases wf.placed i line here with ⟨-, -, top, stands, -⟩
  rw [nowhere] at stands
  contradiction

/-- Lines stand at all places in range, and no others. -/
theorem WellFormed.isOutOfRange_eq_false_iff_lt (wf : pane.WellFormed) {top : Address}
    (shown : pane.top = some top) (a : Address) :
    pane.isOutOfRange a = false ↔
      top ≤ a ∧ (a.value - top.value) / pane.layout.lineUnits < pane.window.length := by
  rw [wf.isOutOfRange_eq_false_iff shown, Nat.div_lt_iff_lt_mul wf.usable.lineUnits_pos,
    Address.le_def, Address.lt_def, Address.value_offset]
  omega

/-! ## The line of an address -/

/-- An address is in range exactly if some line of the window covers it, and then just one does. -/
theorem isOutOfRange_eq_false_iff_covers [Host η] (reach : pane.Reachable) (a : Address) :
    (pane.isOutOfRange a = false ↔ ∃ line ∈ pane.window, line.Covers pane.layout a) ∧
      (pane.isOutOfRange a = false →
        ∃! i : Nat, ∃ line, pane.window[i]? = some line ∧ line.Covers pane.layout a) := by
  have wf := reach.wellFormed
  cases shown : pane.top with
  | none =>
      have out : pane.isOutOfRange a = true := by
        rw [isOutOfRange, wf.window_eq_nil shown]
        rfl
      rw [out, wf.window_eq_nil shown]
      simp
  | some top =>
      -- the line that stands where the address lies
      have present : pane.isOutOfRange a = false →
          ∃ line, pane.window[(a.value - top.value) / pane.layout.lineUnits]? = some line ∧
            line.Covers pane.layout a := by
        intro inRange
        obtain ⟨above, inside⟩ := (wf.isOutOfRange_eq_false_iff_lt shown a).mp inRange
        have here := List.getElem?_eq_getElem inside
        exact ⟨_, here, (wf.covers_iff shown here a).mpr ⟨above, rfl⟩⟩
      constructor
      · constructor
        · intro inRange
          obtain ⟨line, here, covers⟩ := present inRange
          exact ⟨line, List.mem_of_getElem? here, covers⟩
        · intro covered
          obtain ⟨line, member, covers⟩ := covered
          rcases List.mem_iff_getElem?.mp member with ⟨i, here⟩
          obtain ⟨above, place⟩ := (wf.covers_iff shown here a).mp covers
          apply (wf.isOutOfRange_eq_false_iff_lt shown a).mpr
          rw [place]
          exact ⟨above, (List.getElem?_eq_some_iff.mp here).1⟩
      · intro inRange
        refine ⟨_, present inRange, ?_⟩
        intro i also
        obtain ⟨line, here, covers⟩ := also
        exact ((wf.covers_iff shown here a).mp covers).2.symm

/-- The second of two lines covers an address three units after its own. Behind it, nothing does. -/
theorem isOutOfRange_eq_false_iff_covers_sample :
    let pane := Sample.pane.run [.loadAt ⟨0x1000⟩ 2 false Sample.image]
    pane.Reachable ∧
      (∃! i : Nat, ∃ line, pane.window[i]? = some line ∧ line.Covers pane.layout ⟨0x1013⟩) ∧
      ¬ ∃ line ∈ pane.window, line.Covers pane.layout ⟨0x1020⟩ := by
  intro pane
  have reach : pane.Reachable := Sample.reachable_run _
  have inside : pane.isOutOfRange ⟨0x1013⟩ = false := by decide +kernel
  have outside : pane.isOutOfRange ⟨0x1020⟩ = true := by decide +kernel
  refine ⟨reach, (isOutOfRange_eq_false_iff_covers reach ⟨0x1013⟩).2 inside, ?_⟩
  rw [← (isOutOfRange_eq_false_iff_covers reach ⟨0x1020⟩).1, outside]
  simp

end MemoryPane.Pane
