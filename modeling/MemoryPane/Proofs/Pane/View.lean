import MemoryPane.Proofs.Pane.Coverage

/-!
Loading what the viewport asks for. A load of the view is planned first: where it starts, how many
lines it takes, and how many of these are kept ready above and below the visible ones.

A plan is written down even if nothing is loaded, and that is all that a refused load leaves
(`loadView_of_refused`). A plan takes no account of alignment: a window is moved down to an aligned
address without getting longer, and whether it still shows the address that the view wanted is a
matter of how far it was moved (`isOutOfRange_wantedStart_iff`).
-/

namespace MemoryPane.Pane

variable {σ η : Type} {pane : Pane σ η} {env : σ}

/-! ## Windows that are built -/

variable [Host η]

/-- A load that builds a window builds one of the requested lines from the aligned start on. -/
theorem window_loadAt (usable : pane.layout.Usable) {start : Address} {lines : Nat} {afresh : Bool}
    (built : (pane.loadAt start lines afresh env).1.buildsWindow = true) :
    (pane.loadAt start lines afresh env).2.1.top =
        some (start.alignDown pane.layout.alignment) ∧
      (pane.loadAt start lines afresh env).2.1.window.length = lines := by
  rcases exists_loadAt_eq (buildsWindow_loadAt_iff.mp built) start with
    ⟨result, cells, host, next, -, length, eq⟩
  rw [eq]
  exact ⟨rfl, length_window_rebuild usable length _ afresh⟩

theorem window_loadView (usable : pane.layout.Usable)
    (built : (pane.loadView env).1.buildsWindow = true) :
    (pane.loadView env).2.1.top =
        some ((pane.plan env).start.alignDown pane.layout.alignment) ∧
      (pane.loadView env).2.1.window.length = (pane.plan env).lines := by
  rw [loadView_eq] at built ⊢
  exact window_loadAt usable built

/-- A window that is built has fewer lines than the largest word, so that no count was cut. -/
theorem lines_plan_lt (usable : pane.layout.Usable)
    (built : (pane.loadView env).1.buildsWindow = true) : (pane.plan env).lines < Word.top := by
  rw [loadView_eq] at built
  obtain ⟨-, -, fits⟩ := buildsWindow_loadAt_iff.mp built
  have lines : (pane.plan env).lines ≤ pane.layout.width * (pane.plan env).lines :=
    Nat.le_mul_of_pos_left _ usable.width_pos
  have limit : Layout.windowLimit < Word.top := by decide
  omega

/-! ## What a refused load leaves -/

omit [Host η] in
/-- A plan changes nothing of the viewport but the lines kept ready. -/
theorem viewport_plan (pane : Pane σ η) (env : σ) :
    (pane.plan env).viewport =
      { pane.viewport with
        linesAbove := (pane.plan env).viewport.linesAbove
        linesBelow := (pane.plan env).viewport.linesBelow } := by
  unfold plan
  split <;> rfl

theorem snd_loadView_of_refused (refused : (pane.loadView env).1.buildsWindow = false) :
    (pane.loadView env).2 = ({ pane with viewport := (pane.plan env).viewport }, env) := by
  rw [loadView_eq] at refused ⊢
  dsimp only at refused ⊢
  have refuses : ¬ pane.Accepts (pane.plan env).lines env := by
    intro accepts
    rw [buildsWindow_loadAt_iff.mpr accepts] at refused
    contradiction
  rw [loadAt_of_not_accepts refuses]
  simp

/-- A load of the view that is refused leaves everything but the lines kept ready, which are those
of its plan. So it leaves no trace exactly if the viewport had them before. -/
theorem loadView_of_refused (refused : (pane.loadView env).1.buildsWindow = false) :
    (pane.loadView env).2.2 = env ∧
      (pane.loadView env).2.1 =
        { pane with
          viewport :=
            { pane.viewport with
              linesAbove := (pane.plan env).viewport.linesAbove
              linesBelow := (pane.plan env).viewport.linesBelow } } ∧
      ((pane.loadView env).2.1 = pane ↔
        (pane.plan env).viewport.linesAbove = pane.viewport.linesAbove ∧
          (pane.plan env).viewport.linesBelow = pane.viewport.linesBelow) := by
  rw [snd_loadView_of_refused refused]
  refine ⟨rfl, ?_, ?_⟩
  · rw [← viewport_plan]
  · constructor
    · intro same
      have viewport : (pane.plan env).viewport = pane.viewport := congrArg Pane.viewport same
      rw [viewport]
      exact ⟨rfl, rfl⟩
    · rintro ⟨above, below⟩
      show { pane with viewport := (pane.plan env).viewport } = pane
      rw [viewport_plan, above, below]

namespace Sample

/-- The image when its target has come to an end. -/
def orphan : Image := { image with status := .terminated }

end Sample

/-- A load from a target that is gone writes down the plan of a load that never came. The next one
finds it there and leaves no trace. -/
theorem loadView_of_refused_sample :
    let refused := (Sample.pane.loadView Sample.orphan).2.1
    refused.viewport = { linesAbove := 20, linesBelow := 20 } ∧
      refused.window = Sample.pane.window ∧
      (refused.loadView Sample.orphan).2 = (refused, Sample.orphan) := by
  intro refused
  have first : (Sample.pane.loadView Sample.orphan).1.buildsWindow = false := rfl
  have second : (refused.loadView Sample.orphan).1.buildsWindow = false := rfl
  obtain ⟨-, left, -⟩ := loadView_of_refused first
  obtain ⟨env, -, traceless⟩ := loadView_of_refused second
  exact ⟨by decide +kernel, (congrArg Pane.window left :),
    Prod.ext (traceless.mpr (by decide +kernel)) env⟩

/-- Not every refused load leaves the pane as it was. -/
theorem not_forall_loadView_eq_self :
    ¬ ∀ pane : Pane Image Recorder, pane.Reachable → ∀ env,
      (pane.loadView env).1.buildsWindow = false → (pane.loadView env).2.1 = pane := by
  intro traceless
  have same := traceless Sample.pane (Sample.reachable_run []) Sample.orphan rfl
  have written : (Sample.pane.loadView Sample.orphan).2.1.viewport.linesAbove = 20 := by
    decide +kernel
  rw [same] at written
  contradiction

/-! ## The address that the view wants -/

/-- The first address that the view wants to show. -/
def wantedStart (pane : Pane σ η) (env : σ) : Address :=
  pane.viewport.start.getD (pane.source.base env)

omit [Host η] in
/-- The plan for a block that can be read at any address. -/
theorem plan_of_ranged (ranged : pane.source.isRanged = true) (env : σ) :
    pane.plan env =
      let start := pane.wantedStart env
      let above := pane.viewport.aboveFor start
      { start := start.retreat (above * pane.layout.lineUnits)
        lines :=
          Word.addCapped (Word.addCapped pane.viewport.visibleLines above) pane.viewport.margin
        viewport :=
          { pane.viewport with linesAbove := above, linesBelow := pane.viewport.margin } } := by
  unfold Source.isRanged at ranged
  unfold plan wantedStart Source.base
  cases feed : pane.source.feed with
  | whole block =>
      rw [feed] at ranged
      contradiction
  | ranged block => rfl

/-- If the window is built, no count of lines was cut at the largest word. -/
theorem lines_plan_of_ranged (usable : pane.layout.Usable) (ranged : pane.source.isRanged = true)
    (built : (pane.loadView env).1.buildsWindow = true) :
    (pane.plan env).lines =
      pane.viewport.visibleLines + pane.viewport.aboveFor (pane.wantedStart env) +
        pane.viewport.margin := by
  have small := lines_plan_lt usable built
  rw [plan_of_ranged ranged] at small ⊢
  dsimp only at small ⊢
  rw [Word.addCapped_of_lt small, Word.addCapped_of_lt]
  unfold Word.addCapped at small ⊢
  omega

/-- The window of the view shows the address that the view wanted exactly if alignment moved the
window by less than the visible lines and those below them. So it does wherever these lines reach
over the distance between two aligned addresses. -/
theorem isOutOfRange_wantedStart_iff (reach : pane.Reachable)
    (ranged : pane.source.isRanged = true) (visible : 1 ≤ pane.viewport.visibleLines)
    (built : (pane.loadView env).1.buildsWindow = true) :
    ((pane.loadView env).2.1.isOutOfRange (pane.wantedStart env) = false ↔
      (pane.plan env).start.misalignment pane.layout.alignment <
        (pane.viewport.visibleLines + pane.viewport.margin) * pane.layout.lineUnits) ∧
    (pane.layout.alignment ≤
        (pane.viewport.visibleLines + pane.viewport.margin) * pane.layout.lineUnits →
      (pane.loadView env).2.1.isOutOfRange (pane.wantedStart env) = false) := by
  have wf := reach.wellFormed
  have step := pane.transition_loadView env
  obtain ⟨top, length⟩ := window_loadView wf.usable built
  have moved := (pane.plan env).start.value_alignDown_add_misalignment pane.layout.alignment
  have first : (pane.plan env).start.value = (pane.wantedStart env).value -
      pane.viewport.aboveFor (pane.wantedStart env) * pane.layout.lineUnits := by
    rw [plan_of_ranged ranged]
    rfl
  -- the lines above lead from the wanted address down to the start of the plan
  have units : (pane.plan env).lines * pane.layout.lineUnits =
      (pane.viewport.visibleLines + pane.viewport.margin) * pane.layout.lineUnits +
        pane.viewport.aboveFor (pane.wantedStart env) * pane.layout.lineUnits := by
    rw [lines_plan_of_ranged wf.usable ranged built, ← Nat.add_mul, Nat.add_right_comm]
  have room : 0 < (pane.viewport.visibleLines + pane.viewport.margin) * pane.layout.lineUnits :=
    Nat.mul_pos (by omega) wf.usable.lineUnits_pos
  have inRange : (pane.loadView env).2.1.isOutOfRange (pane.wantedStart env) = false ↔
      (pane.plan env).start.misalignment pane.layout.alignment <
        (pane.viewport.visibleLines + pane.viewport.margin) * pane.layout.lineUnits := by
    rw [(wf.transition step).isOutOfRange_eq_false_iff top, length, step.frame.2, Address.le_def,
      Address.lt_def, Address.value_offset, units]
    omega
  refine ⟨inRange, fun reaches => inRange.mpr ?_⟩
  exact Nat.lt_of_lt_of_le (Address.misalignment_lt wf.usable.alignment_pos _) reaches

namespace Sample

/-- The image read in units of four bytes, of which a line holds four. -/
def quads : Source Image := Image.source ⟨1⟩ ⟨1⟩ (.ranged (Image.rangedBlock 0 4 false))

/-- A pane that wants to show one line from the last of four units on, and keeps `margin` lines
ready below it. -/
def misaligned (margin : Nat) : Pane Image Recorder where
  source := quads
  host := {}
  layout := { unit := 4 }
  viewport := { start := some ⟨0x100c⟩, visibleLines := 1, margin }

theorem reachable_misaligned (margin : Nat) : (misaligned margin).Reachable :=
  ⟨quads, {}, {}, (misaligned margin).viewport, misaligned margin, [],
    create_eq_ok_iff.mpr ⟨⟨by decide, by decide, by decide, by decide⟩, rfl⟩, rfl⟩

end Sample

/-- The window is moved down by three lines, and three lines below the visible one make up for
it. -/
theorem isOutOfRange_wantedStart_sample :
    let pane := Sample.misaligned 3
    (pane.loadView Sample.image).2.1.top = some ⟨0x1000⟩ ∧
      (pane.loadView Sample.image).2.1.isOutOfRange (pane.wantedStart Sample.image) = false :=
  ⟨by decide +kernel,
    (isOutOfRange_wantedStart_iff (Sample.reachable_misaligned 3) rfl (by decide)
      (by decide +kernel)).2 (by decide)⟩

/-- Without lines below the visible one, alignment can move the whole window away from the address
that the view wanted. -/
theorem not_forall_isOutOfRange_wantedStart :
    ¬ ∀ pane : Pane Image Recorder, pane.Reachable → pane.source.isRanged = true →
      1 ≤ pane.viewport.visibleLines → ∀ env, (pane.loadView env).1.buildsWindow = true →
        (pane.loadView env).2.1.isOutOfRange (pane.wantedStart env) = false := by
  intro shows
  have shown := shows (Sample.misaligned 0) (Sample.reachable_misaligned 0) rfl (by decide)
    Sample.image (by decide +kernel)
  have missed : ((Sample.misaligned 0).loadView Sample.image).2.1.isOutOfRange
      ((Sample.misaligned 0).wantedStart Sample.image) = true := by decide +kernel
  rw [shown] at missed
  contradiction

end MemoryPane.Pane
