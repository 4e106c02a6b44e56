import MemoryPane.Proofs.Pane.Invariant

/-!
What a refresh leaves behind, and what the next load makes of it. There are four cases, one lemma
for each: nothing can be refreshed (`refresh_of_halted`), the host cannot be seen
(`refresh_of_hidden`), it shows a failure (`refresh_of_failing`), or the pane is left `snapped`
(`refresh_of_calm`). Refreshing again only tells the host once more (`refresh_again`).
`highlight_of_snapped` describes the change states of a line that is highlighted against such a
snapshot, cell by cell.
-/

namespace MemoryPane

/-- Being told of new content or new names changes neither whether a host can be seen nor whether it
shows a failure. -/
structure Host.Quiet (η : Type) [Host η] : Prop where
  isVisible_noticeContent : ∀ host : η,
    Host.isVisible (Host.noticeContent host) = Host.isVisible host
  showsFailure_noticeContent : ∀ host : η,
    Host.showsFailure (Host.noticeContent host) = Host.showsFailure host
  isVisible_noticeNames : ∀ host : η, Host.isVisible (Host.noticeNames host) = Host.isVisible host
  showsFailure_noticeNames : ∀ host : η,
    Host.showsFailure (Host.noticeNames host) = Host.showsFailure host

theorem Recorder.quiet : Host.Quiet Recorder :=
  ⟨fun _ => rfl, fun _ => rfl, fun _ => rfl, fun _ => rfl⟩

namespace Pane

variable {σ η : Type} {pane : Pane σ η}

theorem snapped_snapped (pane : Pane σ η) (first second : η) (former latter : Viewport) :
    (pane.snapped first former).snapped second latter = pane.snapped second latter := by
  have rely : Line.rely ∘ Line.rely = Line.rely := rfl
  simp only [snapped, List.map_map, rely]

variable [Host η]

/-! ## What a refresh does -/

section Refresh

variable {env : σ}

theorem refresh_of_halted (halted : (pane.disposed || (pane.source.status env).isGone) = true) :
    pane.refresh env = (false, pane) := by
  rw [refresh, if_pos halted]

variable (running : (pane.disposed || (pane.source.status env).isGone) = false)
include running

theorem refresh_of_hidden (hidden : Host.isVisible pane.host = false) :
    pane.refresh env = (false, pane.clearSnapshot) := by
  rw [refresh, if_neg (by simp [running]), if_pos (by simp [hidden])]

theorem refresh_of_failing (visible : Host.isVisible pane.host = true)
    (failing : Host.showsFailure pane.host = true) :
    pane.refresh env =
      (true,
        { pane with
          snapshot := ∅
          viewport := { pane.viewport with afresh := true }
          host := Host.noticeContent pane.host }) := by
  rw [refresh, if_neg (by simp [running]), if_neg (by simp [visible])]
  simp only [failing, if_true]
  rfl

theorem refresh_of_calm (visible : Host.isVisible pane.host = true)
    (calm : Host.showsFailure pane.host = false) :
    pane.refresh env =
      (true,
        pane.snapped (Host.noticeContent pane.host) { pane.viewport with afresh := true }) := by
  rw [refresh, if_neg (by simp [running]), if_neg (by simp [visible])]
  simp only [calm, Bool.false_eq_true, if_false]
  rfl

end Refresh

/-- Refreshing changes neither the source nor whether the pane has ended. -/
theorem refresh_frame (pane : Pane σ η) (env : σ) :
    (pane.refresh env).2.source = pane.source ∧
      (pane.refresh env).2.disposed = pane.disposed := by
  unfold refresh
  split
  · exact ⟨rfl, rfl⟩
  · split <;> exact ⟨rfl, rfl⟩

theorem fst_refresh_eq_true_iff {env : σ} :
    (pane.refresh env).1 = true ↔
      pane.disposed = false ∧ (pane.source.status env).isGone = false ∧
        Host.isVisible pane.host = true := by
  rw [← and_assoc, ← Bool.or_eq_false_iff]
  cases running : pane.disposed || (pane.source.status env).isGone with
  | true => simp [refresh_of_halted running]
  | false =>
      cases visible : Host.isVisible pane.host with
      | false => simp [refresh_of_hidden running visible]
      | true =>
          cases failing : Host.showsFailure pane.host with
          | true => simp [refresh_of_failing running visible failing]
          | false => simp [refresh_of_calm running visible failing]

/-- A refresh while no failure is shown takes the window as the snapshot. -/
theorem snd_refresh {env : σ} (done : (pane.refresh env).1 = true)
    (calm : Host.showsFailure pane.host = false) :
    (pane.refresh env).2 =
      pane.snapped (Host.noticeContent pane.host) { pane.viewport with afresh := true } := by
  rcases fst_refresh_eq_true_iff.mp done with ⟨live, present, visible⟩
  rw [refresh_of_calm (by simp [live, present]) visible calm]

/-! ## Refreshing twice -/

/-- A refresh leaves a quiet host seen as before. -/
theorem host_refresh_of_quiet (quiet : Host.Quiet η) (pane : Pane σ η) (env : σ) :
    Host.isVisible (pane.refresh env).2.host = Host.isVisible pane.host ∧
      Host.showsFailure (pane.refresh env).2.host = Host.showsFailure pane.host := by
  unfold refresh
  split
  · exact ⟨rfl, rfl⟩
  · split
    · exact ⟨rfl, rfl⟩
    · exact ⟨quiet.isVisible_noticeContent _, quiet.showsFailure_noticeContent _⟩

/-- While the host is seen as before, refreshing again ends in the same way, and only tells the host
of new content once more. -/
theorem refresh_again {env : σ}
    (seen : Host.isVisible (pane.refresh env).2.host = Host.isVisible pane.host)
    (shown : Host.showsFailure (pane.refresh env).2.host = Host.showsFailure pane.host) :
    (pane.refresh env).2.refresh env =
      ((pane.refresh env).1,
        if (pane.refresh env).1 then
          { (pane.refresh env).2 with host := Host.noticeContent (pane.refresh env).2.host }
        else (pane.refresh env).2) := by
  cases running : pane.disposed || (pane.source.status env).isGone with
  | true =>
      rw [refresh_of_halted running]
      exact refresh_of_halted running
  | false =>
      cases visible : Host.isVisible pane.host with
      | false =>
          have again : pane.clearSnapshot.refresh env = (false, pane.clearSnapshot) :=
            refresh_of_hidden running visible
          rw [refresh_of_hidden running visible, again]
          rfl
      | true =>
          cases failing : Host.showsFailure pane.host with
          | true =>
              rw [refresh_of_failing running visible failing] at seen shown ⊢
              exact refresh_of_failing (by exact running) (seen.trans visible)
                (shown.trans failing)
          | false =>
              rw [refresh_of_calm running visible failing] at seen shown ⊢
              dsimp only at seen shown ⊢
              rw [refresh_of_calm (by exact running) (seen.trans visible) (shown.trans failing),
                snapped_snapped]
              rfl

/-! ## Highlights against a snapped window -/

/-- Where the snapshot is a window that was shown, a line is compared with the line shown at its
address, and a line without such a partner has nothing known about it. -/
theorem highlight_of_snapped (wf : pane.WellFormed) (unmarked : pane.source.marksChanges = false)
    (calm : Host.showsFailure pane.host = false) {shown : List Line}
    (taken : pane.snapshot = (Snapshot.ofWindow (shown.map Line.rely)).settle) {line : Line}
    (size : line.size = pane.layout.width) (afresh : Bool) :
    (∀ earlier ∈ shown, earlier.address = line.address →
      (pane.highlight afresh line).1.reliable = true ∧
        ∀ (k : Nat) (cell : Cell), (pane.highlight afresh line).1.cells[k]? = some cell →
          ∃ before, earlier.cells[k]? = some before ∧
            cell.isChanged = (cell.valid && before.valid && cell.value != before.value) ∧
            (afresh = true → cell.isKnown = (cell.valid && before.valid))) ∧
    ((∀ earlier ∈ shown, earlier.address ≠ line.address) →
      (pane.highlight afresh line).1 = line.forget) := by
  have held : pane.snapshot.lines = shown.map fun earlier => earlier.rely.settle := by
    rw [taken]
    simp [Snapshot.settle, Snapshot.ofWindow]
  constructor
  · intro earlier member same
    have inside : earlier.rely.settle ∈ pane.snapshot.lines := by
      rw [held]
      exact List.mem_map_of_mem member
    have found : pane.snapshot.find? line.address = some earlier.rely.settle := by
      rw [← same]
      exact Snapshot.find?_address wf.distinct inside
    rcases wf.kept _ inside with ⟨width, -, settled⟩
    rw [highlight_of_find?_eq_some unmarked calm found]
    refine ⟨Line.reliable_highlight _ _ _, fun k cell here => ?_⟩
    have sizes :
        ({ line.forget with reliable := true } : Line).size = earlier.rely.settle.size := by
      rw [width, ← size]
      exact List.length_map _
    rcases Line.cell_highlight sizes settled here with ⟨before, there, changed, known⟩
    rw [Line.settle, Line.cells_mapCells, List.getElem?_map, Option.map_eq_some_iff] at there
    obtain ⟨former, own, rfl⟩ := there
    refine ⟨former, own, changed, fun anew => ?_⟩
    simpa [anew] using known
  · intro alone
    have missing : pane.snapshot.find? line.address = none := by
      rw [Snapshot.find?, held, List.find?_eq_none]
      intro former member
      rcases List.mem_map.mp member with ⟨earlier, inside, rfl⟩
      simpa using alone earlier inside
    rw [highlight_of_find?_eq_none unmarked missing]

end Pane

end MemoryPane
