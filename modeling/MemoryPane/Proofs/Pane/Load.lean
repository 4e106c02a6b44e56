import MemoryPane.Proofs.Highlight
import MemoryPane.Proofs.Window

/-!
What a load does. `Pane.Accepts` says when a load builds a window at all
(`buildsWindow_loadAt_iff`); otherwise nothing happens. An accepted load is a `rebuild` at an
aligned address, of a buffer of as many cells as the requested lines hold, and tells the host about
it (`exists_loadAt_eq_buffer`); mostly it does not matter which cells they are (`exists_loadAt_eq`).

The window of a rebuild is described line by line: `getElem?_window_rebuild` says where line `i`
comes from, and the lemmas on `Pane.highlight` say what became of its cells.
-/

namespace MemoryPane.Pane

variable {σ η : Type} {pane : Pane σ η}

/-- A load of `lines` lines builds a window. -/
def Accepts (pane : Pane σ η) (lines : Nat) (env : σ) : Prop :=
  pane.disposed = false ∧ (pane.source.status env).isGone = false ∧
    pane.layout.width * lines ≤ Layout.windowLimit

/-- How a load ends that builds no window. -/
def refusal (pane : Pane σ η) (lines : Nat) (env : σ) : LoadResult :=
  if pane.disposed then .disposed
  else if (pane.source.status env).isGone then .targetGone
  else .refused (.badConfig (.oversizedWindow lines Layout.windowLimit))

@[simp] theorem buildsWindow_refusal (pane : Pane σ η) (lines : Nat) (env : σ) :
    (pane.refusal lines env).buildsWindow = false := by
  unfold refusal
  split
  · rfl
  · split <;> rfl

/-- One read of the source takes the environment `before` to `after`. -/
def ReadsOnce (pane : Pane σ η) (before after : σ) : Prop :=
  match pane.source.feed with
  | .whole block => after = (block.read before).2
  | .ranged block => ∃ start units, after = (block.read start units before).2

/-- What a read may do depends on the source alone. -/
theorem readsOnce_eq {other : Pane σ η} (source : other.source = pane.source) :
    other.ReadsOnce = pane.ReadsOnce := by
  funext before after
  unfold ReadsOnce
  rw [source]

theorem readsOnce_fetch (pane : Pane σ η) (top : Address) (extent : Layout.Extent) (env : σ) :
    pane.ReadsOnce env (pane.source.fetch top extent env).2 := by
  unfold ReadsOnce Source.fetch
  cases pane.source.feed with
  | whole block => exact rfl
  | ranged block => exact ⟨top, extent.units, rfl⟩

/-- The cells of which a load of `lines` lines makes its window: what the source answers, cut or
padded to what the lines hold. -/
def buffer (pane : Pane σ η) (start : Address) (lines : Nat) (env : σ) : List Cell :=
  let extent : Layout.Extent := ⟨pane.layout.width * lines, pane.layout.lineUnits * lines⟩
  padCells extent.bytes
    ((pane.source.fetch (start.alignDown pane.layout.alignment) extent env).1.getD [])

@[simp] theorem length_buffer (pane : Pane σ η) (start : Address) (lines : Nat) (env : σ) :
    (pane.buffer start lines env).length = pane.layout.width * lines :=
  length_padCells _ _

variable [Host η]

/-! ## The outcome of a load -/

theorem loadAt_of_accepts {lines : Nat} {env : σ} (accepts : pane.Accepts lines env)
    (start : Address) (afresh : Bool) :
    pane.loadAt start lines afresh env =
      let top := start.alignDown pane.layout.alignment
      let extent := ⟨pane.layout.width * lines, pane.layout.lineUnits * lines⟩
      let answer := pane.source.fetch top extent env
      let received := pane.receive top extent afresh answer.1
      (received.1, received.2, answer.2) := by
  obtain ⟨live, present, fits⟩ := accepts
  rw [loadAt, if_neg (by simp [live]), if_neg (by simp [present]), Layout.extent?_eq, if_pos fits]

theorem loadAt_of_not_accepts {lines : Nat} {env : σ} (refuses : ¬ pane.Accepts lines env)
    (start : Address) (afresh : Bool) :
    pane.loadAt start lines afresh env = (pane.refusal lines env, pane, env) := by
  unfold loadAt refusal
  cases live : pane.disposed with
  | true => rfl
  | false =>
      cases present : (pane.source.status env).isGone with
      | true => rfl
      | false =>
          have large : ¬ pane.layout.width * lines ≤ Layout.windowLimit :=
            fun fits => refuses ⟨live, present, fits⟩
          rw [Layout.extent?_eq, if_neg large]
          rfl

/-- Receiving a reply rebuilds the window and tells the host. -/
theorem exists_receive_eq (pane : Pane σ η) (top : Address) (extent : Layout.Extent)
    (reply : Reply (List Cell)) :
    ∃ result host, result.buildsWindow = true ∧ ∀ afresh,
      pane.receive top extent afresh reply =
        (result,
          { pane.rebuild top (padCells extent.bytes (reply.getD [])) afresh with host }) := by
  cases reply with
  | content => exact ⟨.loaded, Host.showTable pane.host, rfl, fun _ => rfl⟩
  | nothing =>
      exact ⟨.substituted .noContent, Host.showFailure .noContent pane.host, rfl, fun _ => rfl⟩
  | failed reason =>
      exact ⟨.substituted (.readFailed reason), Host.showFailure (.readFailed reason) pane.host,
        rfl, fun _ => rfl⟩

/-- An accepted load rebuilds the window of its buffer, and changes the host. Only the rebuilding
looks at `afresh`. -/
theorem exists_loadAt_eq_buffer {lines : Nat} {env : σ} (accepts : pane.Accepts lines env)
    (start : Address) :
    ∃ result host next, result.buildsWindow = true ∧ ∀ afresh,
      pane.loadAt start lines afresh env =
        (result,
          { pane.rebuild (start.alignDown pane.layout.alignment) (pane.buffer start lines env)
              afresh with host },
          next) := by
  let top := start.alignDown pane.layout.alignment
  let extent : Layout.Extent := ⟨pane.layout.width * lines, pane.layout.lineUnits * lines⟩
  let answer := pane.source.fetch top extent env
  rcases pane.exists_receive_eq top extent answer.1 with ⟨result, host, built, eq⟩
  refine ⟨result, host, answer.2, built, fun afresh => ?_⟩
  rw [loadAt_of_accepts accepts]
  show ((pane.receive top extent afresh answer.1).1, (pane.receive top extent afresh answer.1).2,
    answer.2) = _
  rw [eq]
  rfl

/-- An accepted load rebuilds the window at an aligned address, of the cells that its lines
hold. -/
theorem exists_loadAt_eq {lines : Nat} {env : σ} (accepts : pane.Accepts lines env)
    (start : Address) :
    ∃ result cells host next, result.buildsWindow = true ∧
      cells.length = pane.layout.width * lines ∧ ∀ afresh,
        pane.loadAt start lines afresh env =
          (result,
            { pane.rebuild (start.alignDown pane.layout.alignment) cells afresh with host },
            next) := by
  rcases exists_loadAt_eq_buffer accepts start with ⟨result, host, next, built, eq⟩
  exact ⟨result, pane.buffer start lines env, host, next, built, pane.length_buffer _ _ _, eq⟩

theorem buildsWindow_loadAt_iff {start : Address} {lines : Nat} {afresh : Bool} {env : σ} :
    (pane.loadAt start lines afresh env).1.buildsWindow = true ↔ pane.Accepts lines env := by
  rcases Classical.em (pane.Accepts lines env) with accepts | refuses
  · rcases exists_loadAt_eq accepts start with ⟨result, cells, host, next, built, -, eq⟩
    rw [eq]
    exact iff_of_true built accepts
  · rw [loadAt_of_not_accepts refuses]
    exact iff_of_false (by simp) refuses

/-- A load reads the source once if it builds a window, and otherwise not at all. -/
theorem readsOnce_loadAt (pane : Pane σ η) (start : Address) (lines : Nat) (afresh : Bool)
    (env : σ) :
    (pane.loadAt start lines afresh env).2.2 = env ∨
      pane.ReadsOnce env (pane.loadAt start lines afresh env).2.2 := by
  rcases Classical.em (pane.Accepts lines env) with accepts | refuses
  · rw [loadAt_of_accepts accepts]
    exact .inr (pane.readsOnce_fetch _ _ env)
  · rw [loadAt_of_not_accepts refuses]
    exact .inl rfl

/-- A load does not look at the viewport. -/
theorem loadAt_with_viewport (pane : Pane σ η) (viewport : Viewport) (start : Address)
    (lines : Nat) (afresh : Bool) (env : σ) :
    { pane with viewport }.loadAt start lines afresh env =
      ((pane.loadAt start lines afresh env).1,
        { (pane.loadAt start lines afresh env).2.1 with viewport },
        (pane.loadAt start lines afresh env).2.2) := by
  obtain ⟨source, host, layout, -, window, snapshot, top, tally, disposed⟩ := pane
  unfold loadAt
  dsimp only
  cases disposed with
  | true => rfl
  | false =>
      cases (source.status env).isGone with
      | true => rfl
      | false =>
          cases layout.extent? lines with
          | none => rfl
          | some extent =>
              dsimp only
              unfold receive
              cases (source.fetch (start.alignDown layout.alignment) extent env).1 <;> rfl

/-- Loading what the viewport asks for, as a load from an address. -/
theorem loadView_eq (pane : Pane σ η) (env : σ) :
    pane.loadView env =
      let plan := pane.plan env
      let loaded := pane.loadAt plan.start plan.lines pane.viewport.afresh env
      let afresh := plan.viewport.afresh && !loaded.1.buildsWindow
      (loaded.1, { loaded.2.1 with viewport := { plan.viewport with afresh } }, loaded.2.2) := by
  have eq := pane.loadAt_with_viewport (pane.plan env).viewport (pane.plan env).start
    (pane.plan env).lines pane.viewport.afresh env
  unfold loadView
  dsimp only at eq ⊢
  rw [eq]

theorem readsOnce_loadView (pane : Pane σ η) (env : σ) :
    (pane.loadView env).2.2 = env ∨ pane.ReadsOnce env (pane.loadView env).2.2 := by
  rw [loadView_eq]
  exact pane.readsOnce_loadAt _ _ _ env

/-! ## The window of a rebuild -/

/-- The cells of the window, line after line. -/
def cells (pane : Pane σ η) : List Cell := pane.window.flatMap Line.cells

theorem getElem?_window_rebuild (pane : Pane σ η) (top : Address) (cells : List Cell)
    (afresh : Bool) (i : Nat) :
    (pane.rebuild top cells afresh).window[i]? =
      (pane.layout.lines top cells)[i]?.map fun line => (pane.highlight afresh line).1 := by
  simp [rebuild, Function.comp_def]

theorem length_window_rebuild (usable : pane.layout.Usable) {cells : List Cell} {count : Nat}
    (length : cells.length = pane.layout.width * count) (top : Address) (afresh : Bool) :
    (pane.rebuild top cells afresh).window.length = count := by
  rw [rebuild, List.length_map, List.length_map, Layout.length_lines usable length]

/-- Whoever marks the changes, the line itself stays. -/
theorem bare_highlight (pane : Pane σ η) (afresh : Bool) (line : Line) :
    (pane.highlight afresh line).1.bare = line.bare := by
  unfold highlight
  split
  · rfl
  · dsimp only
    split
    · exact line.bare_forget
    · split
      · rw [Line.bare_highlight]
        exact line.bare_forget
      · exact line.bare_forget

@[simp] theorem address_highlight (pane : Pane σ η) (afresh : Bool) (line : Line) :
    (pane.highlight afresh line).1.address = line.address := by
  simpa using congrArg Line.address (pane.bare_highlight afresh line)

/-- A rebuilt window shows the cells that it was given, apart from what is said about changes. -/
theorem map_forget_cells_rebuild (usable : pane.layout.Usable) {cells : List Cell} {count : Nat}
    (length : cells.length = pane.layout.width * count) (top : Address) (afresh : Bool) :
    (pane.rebuild top cells afresh).cells.map Cell.forget = cells.map Cell.forget := by
  have forget (line : Line) : (pane.highlight afresh line).1.cells.map Cell.forget =
      line.cells.map Cell.forget := by
    simpa using congrArg Line.cells (pane.bare_highlight afresh line)
  calc (pane.rebuild top cells afresh).cells.map Cell.forget
      = (pane.layout.lines top cells).flatMap fun line => line.cells.map Cell.forget := by
        simp only [Pane.cells, rebuild, List.map_map, List.map_flatMap, List.flatMap_map,
          Function.comp_apply, forget]
    _ = ((pane.layout.lines top cells).flatMap Line.cells).map Cell.forget := by
        rw [List.map_flatMap]
    _ = cells.map Cell.forget := by rw [Layout.flatMap_cells_lines usable length]

/-- A line of a window just built is a full line without marks of its own, highlighted. -/
theorem exists_fresh_of_mem_window (usable : pane.layout.Usable) {lines : Nat} {env : σ}
    (accepts : pane.Accepts lines env) {start : Address} {afresh : Bool} {line : Line}
    (member : line ∈ (pane.loadAt start lines afresh env).2.1.window) :
    ∃ fresh, fresh.size = pane.layout.width ∧ fresh.reliable = false ∧
      line = (pane.highlight afresh fresh).1 := by
  rcases exists_loadAt_eq accepts start with ⟨result, cells, host, next, -, length, eq⟩
  rw [eq] at member
  rcases List.mem_iff_getElem?.mp member with ⟨i, here⟩
  rw [getElem?_window_rebuild, Option.map_eq_some_iff] at here
  obtain ⟨fresh, own, rfl⟩ := here
  have full := Layout.size_of_getElem?_lines usable length own
  rw [Layout.getElem?_lines usable length] at own
  split at own
  · exact ⟨fresh, full, by rw [← Option.some.inj own], rfl⟩
  · contradiction

theorem highlight_of_find?_eq_some (unmarked : pane.source.marksChanges = false)
    (calm : Host.showsFailure pane.host = false) {line earlier : Line}
    (held : pane.snapshot.find? line.address = some earlier) (afresh : Bool) :
    pane.highlight afresh line =
      { line.forget with reliable := true }.highlight earlier afresh := by
  have same : line.forget.address = line.address := rfl
  rw [highlight, if_neg (by simp [unmarked])]
  dsimp only
  rw [if_neg (by simp [calm]), same, held]

theorem highlight_of_find?_eq_none (unmarked : pane.source.marksChanges = false)
    {line : Line} (missing : pane.snapshot.find? line.address = none) (afresh : Bool) :
    pane.highlight afresh line = (line.forget, {}) := by
  have same : line.forget.address = line.address := rfl
  rw [highlight, if_neg (by simp [unmarked])]
  dsimp only
  rw [same, missing, ite_self]

theorem highlight_of_showsFailure (unmarked : pane.source.marksChanges = false)
    (failing : Host.showsFailure pane.host = true) (afresh : Bool) (line : Line) :
    pane.highlight afresh line = (line.forget, {}) := by
  rw [highlight, if_neg (by simp [unmarked])]
  dsimp only
  rw [if_pos failing]

theorem highlight_of_marks (marks : pane.source.marksChanges = true) (afresh : Bool)
    (line : Line) : pane.highlight afresh line = ({ line with reliable := line.allKnown }, {}) :=
  if_pos marks

/-- Where the source marks changes itself, its marks are what the window shows. -/
theorem window_rebuild_of_marks (marks : pane.source.marksChanges = true) (top : Address)
    (cells : List Cell) (afresh : Bool) :
    (pane.rebuild top cells afresh).window =
      (pane.layout.lines top cells).map fun line => { line with reliable := line.allKnown } := by
  rw [rebuild, List.map_map]
  exact List.map_congr_left fun line _ => congrArg Prod.fst (highlight_of_marks marks afresh line)

/-- Nothing is compared then. -/
theorem tally_rebuild_of_marks (marks : pane.source.marksChanges = true) (top : Address)
    (cells : List Cell) (afresh : Bool) : (pane.rebuild top cells afresh).tally = {} := by
  refine Tally.sum_of_empty fun tally member => ?_
  simp only [List.map_map, List.mem_map, Function.comp_apply, highlight_of_marks marks] at member
  obtain ⟨line, -, rfl⟩ := member
  rfl

end MemoryPane.Pane
