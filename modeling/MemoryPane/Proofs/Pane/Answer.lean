import MemoryPane.Proofs.Pane.Invariant
import MemoryPane.Proofs.Pane.Outcome

/-!
What a window shows of the reply to a read from an address on. A load asks such a block once, for
the units of its lines from the aligned start on (`loadAt_of_ranged`). The cells of the new window,
one line after another, are as much of the answer as there is room for, and placeholders after it
(`ShowsReply`, `showsReply_loadAt`). Where the block marks changes itself they are these cells with
all that they say, whatever the pane compares with; otherwise what they say about changes is the
pane's own. Without an answer there are only placeholders.
-/

namespace MemoryPane.Pane

variable {σ η : Type} {pane : Pane σ η}

/-- The window has `lines` lines and shows the reply to the one request that was made for them. -/
structure ShowsReply (pane : Pane σ η) (lines : Nat) (reply : Reply (List Cell)) : Prop where
  length : pane.window.length = lines
  full : ∀ line ∈ pane.window, line.size = pane.layout.width
  /-- As much of the answer as there is room for, and placeholders after it. What it says about
  changes stands if the block marks changes itself. -/
  answered : ∀ answer, reply = .content answer →
    let room := pane.layout.width * lines
    let shown := answer.take room ++ List.replicate (room - answer.length) Cell.placeholder
    (pane.source.marksChanges = true → pane.cells = shown) ∧
      (pane.source.marksChanges = false → pane.cells.map Cell.forget = shown.map Cell.forget)
  unanswered : ∀ failure, reply.failure? = some failure →
    pane.cells = List.replicate (pane.layout.width * lines) .placeholder
  reliable : pane.source.marksChanges = true → ∀ line ∈ pane.window,
    (line.reliable = true ↔ ∀ cell ∈ line.cells, cell.isKnown = true)
  tally : pane.source.marksChanges = true → pane.tally = {}

variable [Host η] {block : RangedBlock σ} {lines : Nat} {env : σ}

/-! ## The cells of a rebuilt window -/

theorem cells_rebuild_of_marks (marks : pane.source.marksChanges = true)
    (usable : pane.layout.Usable) {cells : List Cell} {count : Nat}
    (length : cells.length = pane.layout.width * count) (top : Address) (afresh : Bool) :
    (pane.rebuild top cells afresh).cells = cells := by
  rw [Pane.cells, window_rebuild_of_marks marks, List.flatMap_map]
  exact Layout.flatMap_cells_lines usable length top

omit [Host η] in
/-- Cells of a sound window that were built of placeholders are placeholders. -/
theorem eq_replicate_of_sound (sound : ∀ line ∈ pane.window, line.Sound) {cells : List Cell}
    (shown : cells ⊆ pane.cells) {count : Nat}
    (blank : cells.map Cell.forget = List.replicate count .placeholder) :
    cells = List.replicate count .placeholder := by
  obtain ⟨length, each⟩ := List.eq_replicate_iff.mp blank
  rw [List.length_map] at length
  refine List.eq_replicate_iff.mpr ⟨length, fun cell member => ?_⟩
  obtain ⟨line, own, inside⟩ := List.mem_flatMap.mp (shown member)
  exact (sound line own).eq_placeholder inside (each _ (List.mem_map_of_mem member))

/-- A window that is rebuilt of a reply shows it. -/
theorem showsReply_rebuild (usable : pane.layout.Usable) (top : Address) (lines : Nat)
    (reply : Reply (List Cell)) (afresh : Bool) (host : η)
    (wf : WellFormed
      { pane.rebuild top (padCells (pane.layout.width * lines) (reply.getD [])) afresh with
        host }) :
    ShowsReply
      { pane.rebuild top (padCells (pane.layout.width * lines) (reply.getD [])) afresh with host }
      lines reply := by
  have length (cells : List Cell) :=
    length_padCells (pane.layout.width * lines) cells
  have forgotten (cells : List Cell) :=
    map_forget_cells_rebuild usable (length cells) top afresh
  exact {
    length := length_window_rebuild usable (length _) top afresh
    full := by
      intro line member
      obtain ⟨i, here⟩ := List.mem_iff_getElem?.mp member
      exact (wf.placed i line here).2.1
    answered := by
      rintro answer rfl
      dsimp only [Reply.getD]
      rw [← padCells_eq]
      exact ⟨fun marks => cells_rebuild_of_marks marks usable (length _) top afresh,
        fun _ => forgotten _⟩
    unanswered := by
      intro failure failed
      have blank : padCells (pane.layout.width * lines) (reply.getD []) =
          List.replicate (pane.layout.width * lines) .placeholder := by
        cases reply with
        | content answer => contradiction
        | nothing | failed => simp [Reply.getD, padCells_eq]
      cases marks : pane.source.marksChanges with
      | true => exact (cells_rebuild_of_marks marks usable (length _) top afresh).trans blank
      | false =>
          refine eq_replicate_of_sound (wf.window_sound marks) (List.Subset.refl _)
            ((forgotten _).trans ?_)
          rw [blank, List.map_replicate]
          rfl
    reliable := by
      intro (marks : pane.source.marksChanges = true) line member
      dsimp only at member
      rw [window_rebuild_of_marks marks] at member
      obtain ⟨fresh, -, rfl⟩ := List.mem_map.mp member
      exact List.all_eq_true
    tally := fun (marks : pane.source.marksChanges = true) =>
      tally_rebuild_of_marks marks _ _ _ }

/-! ## One request -/

/-- A load from such a block rebuilds the window of what the block replied to the one request. -/
theorem loadAt_of_ranged (feed : pane.source.feed = .ranged block)
    (accepts : pane.Accepts lines env) (start : Address) (afresh : Bool) :
    let top := start.alignDown pane.layout.alignment
    let answer := block.read top (pane.layout.lineUnits * lines) env
    ∃ host, pane.loadAt start lines afresh env =
      (.ofReply answer.1.kind,
        { pane.rebuild top (padCells (pane.layout.width * lines) (answer.1.getD [])) afresh with
          host },
        answer.2) := by
  intro top answer
  have fetched : pane.source.fetch top
      ⟨pane.layout.width * lines, pane.layout.lineUnits * lines⟩ env = answer := by
    rw [Source.fetch, feed]
  rw [loadAt_of_accepts accepts]
  dsimp only
  rw [fetched]
  cases answer.1 <;> exact ⟨_, rfl⟩

/-- After an accepted load the window shows the reply to its one request. Where the block marks
changes itself, another pane over it shows the same, whatever it compares with and whatever its host
shows. -/
theorem showsReply_loadAt (reach : pane.Reachable) (feed : pane.source.feed = .ranged block)
    (accepts : pane.Accepts lines env) (start : Address) (afresh : Bool) :
    let top := start.alignDown pane.layout.alignment
    let units := pane.layout.lineUnits * lines
    let loaded := pane.loadAt start lines afresh env
    loaded.2.2 = (block.read top units env).2 ∧
      (∀ (α : Type) (record : σ → α) (note : Request → α → α), pane.source.Notes record note →
        record loaded.2.2 = note (.range top units) (record env)) ∧
      loaded.2.1.source = pane.source ∧ loaded.2.1.layout = pane.layout ∧
      loaded.2.1.top = some top ∧ loaded.2.1.ShowsReply lines (block.read top units env).1 ∧
      (pane.source.marksChanges = true → ∀ other : Pane σ η, other.source = pane.source →
        other.layout = pane.layout → other.Accepts lines env → ∀ wish,
          (other.loadAt start lines wish env).2.1.window = loaded.2.1.window) := by
  intro top units loaded
  have wf := reach.wellFormed.transition (pane.transition_loadAt start lines afresh env)
  obtain ⟨host, eq⟩ := loadAt_of_ranged feed accepts start afresh
  have asked : loaded.2.2 = (block.read top units env).2 := congrArg (·.2.2) eq
  have rebuilt : loaded.2.1 = { pane.rebuild top (padCells (pane.layout.width * lines)
      ((block.read top units env).1.getD [])) afresh with host } := congrArg (·.2.1) eq
  rw [show (pane.loadAt start lines afresh env).2.1 = _ from rebuilt] at wf
  refine ⟨asked, ?_, ?_⟩
  · intro α record note notes
    rw [asked]
    rw [Source.Notes, feed] at notes
    exact notes top units env
  · rw [rebuilt]
    have shows := showsReply_rebuild reach.wellFormed.usable top lines _ afresh host wf
    refine ⟨rfl, rfl, rfl, shows, ?_⟩
    intro marks other source layout accepted wish
    obtain ⟨host', eq'⟩ := loadAt_of_ranged (source ▸ feed) accepted start wish
    rw [eq']
    dsimp only
    rw [window_rebuild_of_marks marks, window_rebuild_of_marks (source ▸ marks), layout]

namespace Sample

/-- A pane over a script, which marks changes itself if `marks` is set. -/
def scripted (marks : Bool) : Pane Script Recorder where
  source := {
    block := ⟨1⟩
    target := ⟨1⟩
    status := Script.status
    feed := .ranged (Script.rangedBlock 0 1 marks) }
  host := {}
  layout := {}

theorem reachable_scripted (marks : Bool) (actions : List (Action Script Recorder)) :
    ((scripted marks).run actions).Reachable :=
  ⟨(scripted marks).source, {}, {}, {}, scripted marks, actions, by cases marks <;> rfl, rfl⟩

/-- A script with one answer: a changed byte for each of the values. -/
def answering (values : List UInt8) : Script where
  base := ⟨0x1000⟩
  replies := [.content (values.map fun value => (Cell.ofByte value).setChanged true)]

end Sample

/-- Three bytes in two lines, which the script calls changed, and the pane does not: it showed the
same bytes before. -/
theorem showsReply_loadAt_sample :
    let script := Sample.answering [7, 8, 9]
    let own := (Sample.scripted false).run [.loadAt ⟨0x1000⟩ 2 false script, .refresh script]
    let trusting := Sample.scripted true
    (own.loadAt ⟨0x1003⟩ 2 true script).2.1.cells.take 4 =
        [(Cell.ofByte 7).setChanged false, (Cell.ofByte 8).setChanged false,
          (Cell.ofByte 9).setChanged false, .placeholder] ∧
      (own.loadAt ⟨0x1003⟩ 2 true script).2.2.log = [.range ⟨0x1000⟩ 32] ∧
      (own.loadAt ⟨0x1003⟩ 2 true script).2.1.ShowsReply 2 (script.replies.headD .nothing) ∧
      (trusting.loadAt ⟨0x1003⟩ 2 true script).2.1.ShowsReply 2
        (script.replies.headD .nothing) := by
  intro script own trusting
  have reach : own.Reachable := Sample.reachable_scripted false _
  have reach' : trusting.Reachable := Sample.reachable_scripted true []
  have accepts : own.Accepts 2 script := ⟨rfl, rfl, by decide +kernel⟩
  have accepts' : trusting.Accepts 2 script := ⟨rfl, rfl, by decide⟩
  obtain ⟨-, noted, -, -, -, shows, -⟩ := showsReply_loadAt reach rfl accepts ⟨0x1003⟩ true
  obtain ⟨-, -, -, -, -, stands, -⟩ := showsReply_loadAt reach' rfl accepts' ⟨0x1003⟩ true
  have log := noted (List Request) Script.log List.cons fun _ _ _ => rfl
  exact ⟨by decide +kernel, log.trans (by decide +kernel), shows, stands⟩

end MemoryPane.Pane
