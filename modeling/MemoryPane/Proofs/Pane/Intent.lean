import MemoryPane.Proofs.Pane.Answer
import MemoryPane.Proofs.Pane.Bytes
import MemoryPane.Proofs.Pane.View

/-!
What a view asks for, in numbers of any size. A plan is made with words: sums stay at the largest
one, and a quotient that is none counts as large. None of this shows. A load that builds a window
builds the one that numbers of any size would give, and a load is refused as too large exactly if
they would give one beyond the limit (`lines_plan_eq`, `intended_loadView`).

The window has the lines that the view asks for, from the aligned address at or below the first of
them (`ShowsAround`). A whole block stands in it from the first byte to the last, after as many
placeholders as lead from the aligned address to its start, and before less than a line of them
(`ShowsBlock`).
-/

namespace MemoryPane

/-- A sum that is small with or without the cap was not cut. -/
theorem Word.addCapped_eq_of_le {a b limit : Nat} (small : limit < Word.top)
    (le : Word.addCapped a b ≤ limit ∨ a + b ≤ limit) : Word.addCapped a b = a + b := by
  unfold addCapped at le ⊢
  omega

/-- If a sum of three is small, neither of its sums was cut. -/
theorem Word.addCapped_addCapped_eq_of_le {a b c limit : Nat} (small : limit < Word.top)
    (le : Word.addCapped (Word.addCapped a b) c ≤ limit ∨ a + b + c ≤ limit) :
    Word.addCapped (Word.addCapped a b) c = a + b + c := by
  unfold addCapped at le ⊢
  omega

/-- The lines needed for some bytes have room for them, but not for a line more. -/
theorem Layout.Usable.room {layout : Layout} (usable : layout.Usable) (bytes : Nat) :
    bytes ≤ layout.width * ((bytes + layout.width - 1) / layout.width) ∧
      layout.width * ((bytes + layout.width - 1) / layout.width) < bytes + layout.width := by
  have pos := usable.width_pos
  have parts := Nat.div_add_mod (bytes + layout.width - 1) layout.width
  have rest := Nat.mod_lt (bytes + layout.width - 1) pos
  omega

/-- The lines above a view that starts at `start`. -/
def Viewport.linesBefore (viewport : Viewport) (start : Address) : Nat :=
  if start.value ≤ 32 then 0 else min (start.value / 32) viewport.margin

/-- A quotient that is no word is larger than every margin. -/
theorem Viewport.aboveFor_eq {viewport : Viewport} (word : viewport.margin < Word.bound)
    (start : Address) : viewport.aboveFor start = viewport.linesBefore start := by
  have low : start ≤ lowStart ↔ start.value ≤ 32 := Iff.rfl
  have quotient : (start.divide lowStart.value).value = start.value / 32 := rfl
  unfold aboveFor linesBefore
  simp only [low, Address.toWord?, Word.ofNat?, quotient]
  by_cases near : start.value / 32 < Word.bound
  · rw [if_pos near]
  · rw [if_neg near]
    dsimp only
    rw [Nat.min_eq_right (by omega)]

/-- With enough room, a window that begins below a block has all of it. -/
theorem padCells_placeBlock {start top : Address} (above : top ≤ start) {room : Nat}
    (word : room < Word.bound) {bytes : List UInt8}
    (inside : start.value - top.value + bytes.length ≤ room) :
    padCells room (placeBlock start top room bytes) =
      List.replicate (start.value - top.value) .placeholder ++ bytes.map .ofByte ++
        List.replicate (room - (start.value - top.value + bytes.length)) .placeholder := by
  rw [placeBlock_of_le above (by omega), Nat.min_eq_left (by omega),
    List.take_of_length_le (by omega), padCells_eq, List.length_append, List.length_replicate,
    List.length_map, List.take_of_length_le]
  rw [List.length_append, List.length_replicate, List.length_map]
  exact inside

namespace Pane

variable {σ η : Type} {pane : Pane σ η} {env : σ}

/-- How many lines the view asks for. -/
def wantedLines (pane : Pane σ η) (env : σ) : Nat :=
  match pane.source.feed with
  | .whole block =>
    ((block.start env).value % pane.layout.alignment + block.length env + pane.layout.width - 1) /
      pane.layout.width
  | .ranged _ =>
    pane.viewport.visibleLines + pane.viewport.linesBefore (pane.wantedStart env) +
      pane.viewport.margin

theorem wantedLines_of_whole {block : WholeBlock σ} (feed : pane.source.feed = .whole block)
    (env : σ) :
    pane.wantedLines env =
      ((block.start env).value % pane.layout.alignment + block.length env + pane.layout.width - 1) /
        pane.layout.width := by
  rw [wantedLines, feed]

theorem wantedLines_of_ranged {block : RangedBlock σ} (feed : pane.source.feed = .ranged block)
    (env : σ) :
    pane.wantedLines env =
      pane.viewport.visibleLines + pane.viewport.linesBefore (pane.wantedStart env) +
        pane.viewport.margin := by
  rw [wantedLines, feed]

/-- The plan for a whole block. -/
theorem plan_of_whole (usable : pane.layout.Usable) {block : WholeBlock σ}
    (feed : pane.source.feed = .whole block) (env : σ) :
    pane.plan env =
      let start := block.start env
      let bytes := Word.addCapped (start.value % pane.layout.alignment) (block.length env)
      { start
        lines := (bytes + pane.layout.width - 1) / pane.layout.width
        viewport := { pane.viewport with linesAbove := 0, linesBelow := 0 } } := by
  rw [plan, feed]
  dsimp only
  rw [Address.misalignment_eq_mod usable.alignment_pos]

/-- A plan is for the lines that the view asks for, if the ones or the others keep to the limit of a
window. -/
theorem lines_plan_eq (usable : pane.layout.Usable)
    (fits : pane.layout.width * (pane.plan env).lines ≤ Layout.windowLimit ∨
      pane.layout.width * pane.wantedLines env ≤ Layout.windowLimit) :
    (pane.plan env).lines = pane.wantedLines env := by
  have limit : Layout.windowLimit < Word.top := by decide
  cases feed : pane.source.feed with
  | whole block =>
      rw [plan_of_whole usable feed, wantedLines_of_whole feed] at fits ⊢
      dsimp only at fits ⊢
      -- the lines have room for the bytes that they are needed for
      have small := fits.imp (Nat.le_trans (usable.room _).1) (Nat.le_trans (usable.room _).1)
      rw [Word.addCapped_eq_of_le limit small]
  | ranged block =>
      have ranged : pane.source.isRanged = true := by rw [Source.isRanged, feed]
      rw [plan_of_ranged ranged, wantedLines_of_ranged feed] at fits ⊢
      dsimp only at fits ⊢
      have small := fits.imp (Nat.le_trans (Nat.le_mul_of_pos_left _ usable.width_pos))
        (Nat.le_trans (Nat.le_mul_of_pos_left _ usable.width_pos))
      have word : pane.viewport.margin < Word.bound := by
        unfold Word.addCapped at small
        unfold Word.top at small limit
        omega
      rw [Viewport.aboveFor_eq word] at small ⊢
      exact Word.addCapped_addCapped_eq_of_le limit small

theorem fits_plan_iff (usable : pane.layout.Usable) :
    pane.layout.width * (pane.plan env).lines ≤ Layout.windowLimit ↔
      pane.layout.width * pane.wantedLines env ≤ Layout.windowLimit := by
  constructor
  · intro fits
    rwa [← lines_plan_eq usable (.inl fits)]
  · intro fits
    rwa [lines_plan_eq usable (.inr fits)]

/-! ## The window that the view asks for -/

/-- The window of `next` has the lines that `pane` asks for around `start`. -/
structure ShowsAround (pane : Pane σ η) (start : Address) (next : Pane σ η) : Prop where
  /-- The distance from the first line to `start` is a word. -/
  word : pane.viewport.linesBefore start * pane.layout.lineUnits < Word.bound
  length : next.window.length =
    pane.viewport.visibleLines + pane.viewport.linesBefore start + pane.viewport.margin
  top : next.top =
    some ⟨(start.value - pane.viewport.linesBefore start * pane.layout.lineUnits) /
      pane.layout.alignment * pane.layout.alignment⟩
  viewport : next.viewport =
    { pane.viewport with
      linesAbove := pane.viewport.linesBefore start
      linesBelow := pane.viewport.margin
      afresh := false }

/-- The window of `next` has the lines that `pane` asks for of the block. -/
structure ShowsBlock (pane : Pane σ η) (block : WholeBlock σ) (env : σ) (next : Pane σ η) :
    Prop where
  length : next.window.length =
    ((block.start env).value % pane.layout.alignment + block.length env + pane.layout.width - 1) /
      pane.layout.width
  top : next.top =
    some ⟨(block.start env).value / pane.layout.alignment * pane.layout.alignment⟩
  viewport : next.viewport =
    { pane.viewport with linesAbove := 0, linesBelow := 0, afresh := false }
  /-- A block that stays where it is and answers with as many bytes as it said is shown whole. -/
  cells : ∀ bytes, (block.read env).1 = .content bytes → block.startRead env = block.start env →
    bytes.length = block.length env →
    ∃ shown rest, rest < pane.layout.width ∧ shown.map Cell.forget = bytes.map Cell.ofByte ∧
      next.cells =
        List.replicate ((block.start env).value % pane.layout.alignment) .placeholder ++ shown ++
          List.replicate rest .placeholder

/-- The window of `next` is the one that the view of `pane` asks for. -/
def ShowsView (pane : Pane σ η) (env : σ) (next : Pane σ η) : Prop :=
  match pane.source.feed with
  | .whole block => pane.ShowsBlock block env next
  | .ranged _ => pane.ShowsAround (pane.wantedStart env) next

/-- If the cells of a sound window were built of some content between placeholders, then they are
that content between placeholders. -/
theorem exists_shown_of_sound (sound : ∀ line ∈ pane.window, line.Sound) {before after : Nat}
    {content : List Cell} (built : pane.cells.map Cell.forget =
      List.replicate before .placeholder ++ content ++ List.replicate after .placeholder) :
    ∃ shown, shown.map Cell.forget = content ∧
      pane.cells =
        List.replicate before .placeholder ++ shown ++ List.replicate after .placeholder := by
  obtain ⟨front, back, parts, front', gone⟩ := List.map_eq_append_iff.mp built
  obtain ⟨gap, shown, rfl, blank, eq⟩ := List.map_eq_append_iff.mp front'
  refine ⟨shown, eq, ?_⟩
  have ahead : gap = List.replicate before .placeholder :=
    eq_replicate_of_sound sound (fun _ member => by simp [parts, member]) blank
  have behind : back = List.replicate after .placeholder :=
    eq_replicate_of_sound sound (fun _ member => by simp [parts, member]) gone
  rw [parts, ahead, behind]

variable [Host η]

/-- A load of the view builds a window if the lines that the view asks for keep to the limit. -/
theorem buildsWindow_loadView_iff (usable : pane.layout.Usable) :
    (pane.loadView env).1.buildsWindow = true ↔ pane.Accepts (pane.wantedLines env) env := by
  rw [loadView_eq]
  exact buildsWindow_loadAt_iff.trans
    (and_congr_right' (and_congr_right' (fits_plan_iff usable)))

/-- A load of the view is refused as too large if those lines exceed the limit and nothing else is
in the way. -/
theorem loadView_eq_refused_iff (usable : pane.layout.Usable) {failure : Failure} :
    (pane.loadView env).1 = .refused failure ↔
      pane.disposed = false ∧ (pane.source.status env).isGone = false ∧
        Layout.windowLimit < pane.layout.width * pane.wantedLines env ∧
        failure = .badConfig (.oversizedWindow (pane.plan env).lines Layout.windowLimit) := by
  rw [← Nat.not_le, ← fits_plan_iff usable, Nat.not_le, loadView_eq]
  dsimp only
  rcases Classical.em (pane.Accepts (pane.plan env).lines env) with accepts | refuses
  · refine iff_of_false (fun refused => ?_)
      fun ⟨_, _, large, _⟩ => Nat.not_lt.mpr accepts.2.2 large
    have built : (LoadResult.refused failure).buildsWindow = true :=
      refused ▸ buildsWindow_loadAt_iff.mpr accepts
    contradiction
  · rw [loadAt_of_not_accepts refuses]
    exact refusal_eq_refused_iff refuses

/-- The window that is built has the lines that the view asks for. -/
theorem length_loadView_of_built (usable : pane.layout.Usable)
    (built : (pane.loadView env).1.buildsWindow = true) :
    (pane.plan env).lines = pane.wantedLines env ∧
      (pane.loadView env).2.1.window.length = pane.wantedLines env := by
  obtain ⟨-, -, fits⟩ := (buildsWindow_loadView_iff usable).mp built
  have lines := lines_plan_eq usable (.inr fits)
  exact ⟨lines, (window_loadView usable built).2.trans lines⟩

/-- A load that builds a window writes down its plan and uses up the wish for a comparison. -/
theorem viewport_loadView_of_built (built : (pane.loadView env).1.buildsWindow = true) :
    (pane.loadView env).2.1.viewport = { (pane.plan env).viewport with afresh := false } := by
  rw [loadView_eq] at built ⊢
  dsimp only at built ⊢
  rw [built, Bool.not_true, Bool.and_false]

theorem showsAround_loadView (usable : pane.layout.Usable) {block : RangedBlock σ}
    (feed : pane.source.feed = .ranged block)
    (built : (pane.loadView env).1.buildsWindow = true) :
    pane.ShowsAround (pane.wantedStart env) (pane.loadView env).2.1 := by
  have ranged : pane.source.isRanged = true := by rw [Source.isRanged, feed]
  obtain ⟨-, length⟩ := length_loadView_of_built usable built
  obtain ⟨-, -, fits⟩ := (buildsWindow_loadView_iff usable).mp built
  have wanted := wantedLines_of_ranged feed env
  have limit : Layout.windowLimit < Word.bound := by decide
  -- the lines above are among those of the window, and have no more units than bytes
  have units : pane.viewport.linesBefore (pane.wantedStart env) * pane.layout.lineUnits ≤
      pane.layout.width * pane.wantedLines env := by
    rw [Nat.mul_comm]
    exact Nat.mul_le_mul pane.layout.lineUnits_le_width (by omega)
  have margin : pane.viewport.margin < Word.bound := by
    have counted := Nat.le_mul_of_pos_left (pane.wantedLines env) usable.width_pos
    omega
  exact {
    word := by omega
    length := length.trans wanted
    top := by
      rw [(window_loadView usable built).1, plan_of_ranged ranged]
      dsimp only
      rw [Viewport.aboveFor_eq margin, Address.alignDown_eq usable.alignment_pos,
        Address.value_retreat]
    viewport := by
      rw [viewport_loadView_of_built built, plan_of_ranged ranged]
      dsimp only
      rw [Viewport.aboveFor_eq margin] }

/-- An accepted load of a block from its start on, with room for all bytes that it answers with,
shows them between placeholders, apart from what is said about changes. -/
theorem map_forget_cells_loadAt (usable : pane.layout.Usable) {block : WholeBlock σ}
    (feed : pane.source.feed = .whole block) {bytes : List UInt8}
    (answered : (block.read env).1 = .content bytes) {lines : Nat}
    (accepts : pane.Accepts lines env) {start : Address} (begins : block.startRead env = start)
    (inside : start.value % pane.layout.alignment + bytes.length ≤ pane.layout.width * lines)
    (afresh : Bool) :
    (pane.loadAt start lines afresh env).2.1.cells.map Cell.forget =
      List.replicate (start.value % pane.layout.alignment) .placeholder ++ bytes.map .ofByte ++
        List.replicate (pane.layout.width * lines -
          (start.value % pane.layout.alignment + bytes.length)) .placeholder := by
  let top := start.alignDown pane.layout.alignment
  let room := pane.layout.width * lines
  have loaded := fst_loadAt_of_answered feed answered accepts start afresh
  obtain ⟨answer, host, reply, rebuilt⟩ := exists_bytes_of_loaded feed loaded
  obtain rfl : bytes = answer := Reply.content.inj (answered.symm.trans reply)
  have above : top ≤ start := Nat.sub_le _ _
  have gap : start.value - top.value = start.value % pane.layout.alignment :=
    start.value_sub_value_alignDown usable.alignment_pos
  have word : room < Word.bound := Nat.lt_of_le_of_lt accepts.2.2 (by decide)
  calc (pane.loadAt start lines afresh env).2.1.cells.map Cell.forget
      = (padCells room (placeBlock start top room bytes)).map Cell.forget := by
        rw [rebuilt, begins]
        exact map_forget_cells_rebuild usable (length_padCells _ _) top afresh
    _ = _ := by
        rw [padCells_placeBlock above word (gap ▸ inside), gap, List.map_append,
          List.map_append, List.map_replicate, List.map_replicate, List.map_map]
        rfl

theorem showsBlock_loadView (reach : pane.Reachable) {block : WholeBlock σ}
    (feed : pane.source.feed = .whole block)
    (built : (pane.loadView env).1.buildsWindow = true) :
    pane.ShowsBlock block env (pane.loadView env).2.1 := by
  have usable := reach.wellFormed.usable
  obtain ⟨lines, length⟩ := length_loadView_of_built usable built
  have planned := plan_of_whole usable feed env
  have wanted := wantedLines_of_whole feed env
  exact {
    length := length.trans wanted
    top := by
      rw [(window_loadView usable built).1, planned, Address.alignDown_eq usable.alignment_pos]
    viewport := by rw [viewport_loadView_of_built built, planned]
    cells := by
      intro bytes answered stays whole
      have step := pane.transition_loadView env
      have sound := (reach.wellFormed.transition step).window_sound
        (by rw [step.frame.1, Source.marksChanges, feed])
      obtain ⟨inside, rest⟩ := usable.room
        ((block.start env).value % pane.layout.alignment + block.length env)
      rw [← wanted, ← whole] at inside rest
      have accepts := (buildsWindow_loadView_iff usable).mp built
      have loaded : (pane.loadView env).2.1.cells = (pane.loadAt (block.start env)
          (pane.wantedLines env) pane.viewport.afresh env).2.1.cells := by
        rw [← lines, loadView_eq, planned]
        rfl
      have read := map_forget_cells_loadAt usable feed answered accepts stays inside
        pane.viewport.afresh
      rw [← loaded] at read
      obtain ⟨shown, eq, parts⟩ := exists_shown_of_sound sound read
      exact ⟨shown, _, Nat.sub_lt_left_of_lt_add inside rest, eq, parts⟩ }

/-! ## Every load of the view -/

/-- A load of the view builds the window that the view asks for, however large the numbers in it,
unless the pane or its target has come to an end or this window exceeds the limit. In the last case,
and in no other, it says so. The wish to compare every byte anew is used up if a window is built. -/
theorem intended_loadView (reach : pane.Reachable) (env : σ) :
    let loaded := pane.loadView env
    let alive := pane.disposed = false ∧ (pane.source.status env).isGone = false
    let bytes := pane.layout.width * pane.wantedLines env
    (loaded.1.buildsWindow = true ↔ alive ∧ bytes ≤ Layout.windowLimit) ∧
      (∀ failure, loaded.1 = .refused failure ↔ alive ∧ Layout.windowLimit < bytes ∧
        failure = .badConfig (.oversizedWindow (pane.plan env).lines Layout.windowLimit)) ∧
      (loaded.1.buildsWindow = true → pane.ShowsView env loaded.2.1) ∧
      loaded.2.1.viewport.afresh = (pane.viewport.afresh && !loaded.1.buildsWindow) := by
  intro loaded alive bytes
  have usable := reach.wellFormed.usable
  refine ⟨(buildsWindow_loadView_iff usable).trans and_assoc.symm,
    fun failure => (loadView_eq_refused_iff usable).trans and_assoc.symm, ?_, ?_⟩
  · intro built
    unfold ShowsView
    cases feed : pane.source.feed with
    | whole block => exact showsBlock_loadView reach feed built
    | ranged block => exact showsAround_loadView usable feed built
  · rw [show loaded = _ from pane.loadView_eq env]
    dsimp only
    rw [viewport_plan]

namespace Sample

/-- A pane that wants to show one line from a high address on, and keeps two lines ready on either
side of it. -/
def distant : Pane Image Recorder where
  source := quads
  host := {}
  layout := { unit := 4 }
  viewport := { start := some ⟨64 * Word.bound⟩, visibleLines := 1, margin := 2, afresh := true }

end Sample

/-- The image in three lines, of which the first begins sixteen bytes below it and the last ends
twelve bytes above it; and five lines around an address of which no quotient is a word. -/
theorem intended_loadView_sample :
    let whole := Sample.whole 1 24
    let distant := Sample.distant
    let around := (distant.loadView Sample.image).2.1
    whole.ShowsView Sample.image (whole.loadView Sample.image).2.1 ∧
      whole.wantedLines Sample.image = 3 ∧
      distant.ShowsView Sample.image around ∧ around.window.length = 5 ∧
      around.top = some ⟨64 * Word.bound - 16⟩ ∧ around.viewport.afresh = false := by
  intro whole distant around
  have reach : whole.Reachable :=
    ⟨whole.source, {}, whole.layout, {}, whole, [],
      create_eq_ok_iff.mpr ⟨⟨by decide, by decide, by decide, by decide⟩, rfl⟩, rfl⟩
  have reach' : distant.Reachable :=
    ⟨distant.source, {}, distant.layout, distant.viewport, distant, [],
      create_eq_ok_iff.mpr ⟨⟨by decide, by decide, by decide, by decide⟩, rfl⟩, rfl⟩
  obtain ⟨-, -, shows, -⟩ := intended_loadView reach Sample.image
  obtain ⟨-, -, shows', spent⟩ := intended_loadView reach' Sample.image
  have built : (distant.loadView Sample.image).1.buildsWindow = true := by decide +kernel
  have shown := shows' built
  exact ⟨shows (by decide +kernel), by decide +kernel, shown,
    shown.length.trans (by decide +kernel), shown.top.trans (by decide +kernel),
    spent.trans (by rw [built]; rfl)⟩

end Pane

end MemoryPane
