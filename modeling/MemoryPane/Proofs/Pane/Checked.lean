import MemoryPane.Proofs.Pane.Invariant

/-!
A load with its checks. The library computes with natural numbers, where a machine has words and
asserts what it relies on. `Pane.loadAt?` is the load that stops where a machine would: at a product
that is no word, at a difference below zero, at cells that do not make whole lines, and at two lines
of different sizes that are to be compared. Each part of a load has its checked counterpart beside
it, with a lemma that says where the two agree.

The checks stand far from what makes them pass. The limit on the bytes of a window bounds the units
above its top, a usable layout divides the bytes into lines, and that the lines of the snapshot have
the size of fresh ones is part of the invariant. Together they let every load of a well-formed pane
through (`WellFormed.loadAt?_eq`); `KeepsBounds` says what the checks find in a load that builds a
window.
-/

namespace MemoryPane

/-- The difference, if there is one. -/
def Word.sub? (a b : Nat) : Option Nat :=
  if b ≤ a then some (a - b) else none

theorem Word.sub?_of_le {a b : Nat} (le : b ≤ a) : Word.sub? a b = some (a - b) := if_pos le

theorem Word.mul?_of_lt {a b : Nat} (word : a * b < Word.bound) : Word.mul? a b = some (a * b) :=
  if_pos word

/-- Where the checked function never stops, checking changes nothing. -/
theorem mapM_eq_some_of_agree {α β : Type} {f : α → Option β} {g : α → β} {xs : List α}
    (agree : ∀ x ∈ xs, f x = some (g x)) : xs.mapM f = some (xs.map g) := by
  induction xs with
  | nil => rfl
  | cons x xs ih =>
      rw [List.mapM_cons, agree x List.mem_cons_self,
        ih fun later member => agree later (List.mem_cons_of_mem x member)]
      rfl

/-! ## Comparing lines -/

namespace Line

/-- Joins two lines, which must be of one size. -/
def joinOfSize (join : Line → Line → Line × Tally) (line earlier : Line) : Option (Line × Tally) :=
  if line.size = earlier.size then some (join line earlier) else none

def highlight? (line earlier : Line) (afresh : Bool) : Option (Line × Tally) :=
  if afresh || line.contentDiffers earlier then joinOfSize compareAfresh line earlier
  else joinOfSize carryOver line earlier

/-- Either way of highlighting needs lines of one size, and nothing else. -/
theorem highlight?_eq (line earlier : Line) (afresh : Bool) :
    line.highlight? earlier afresh =
      if line.size = earlier.size then some (line.highlight earlier afresh) else none := by
  unfold highlight? highlight
  split <;> rfl

end Line

/-! ## The cells of a window -/

/-- Places a block, where the gap before it must leave room. -/
def placeBlock? (start top : Address) (room : Nat) (bytes : List UInt8) : Option (List Cell) :=
  match top.distanceTo? start with
  | some distance => do
    let gap := min distance room
    let rest ← Word.sub? room gap
    return List.replicate gap .placeholder ++ (bytes.take rest).map .ofByte
  | none => some ((bytes.drop ((start.distanceTo? top).getD Word.top)).map .ofByte)

theorem placeBlock?_eq (start top : Address) (room : Nat) (bytes : List UInt8) :
    placeBlock? start top room bytes = some (placeBlock start top room bytes) := by
  unfold placeBlock? placeBlock
  cases top.distanceTo? start with
  | none => rfl
  | some distance =>
      dsimp only
      rw [Word.sub?_of_le (Nat.min_le_right distance room)]
      rfl

def Source.fetch? {σ : Type} (source : Source σ) (top : Address) (extent : Layout.Extent)
    (env : σ) : Option (Reply (List Cell) × σ) :=
  match source.feed with
  | .ranged block => some (block.read top extent.units env)
  | .whole block =>
    let (reply, env) := block.read env
    match reply with
    | .content bytes => do
      let cells ← placeBlock? (block.start env) top extent.bytes bytes
      return (.content cells, env)
    | .nothing => some (.nothing, env)
    | .failed reason => some (.failed reason, env)

theorem Source.fetch?_eq {σ : Type} (source : Source σ) (top : Address) (extent : Layout.Extent)
    (env : σ) : source.fetch? top extent env = some (source.fetch top extent env) := by
  unfold fetch? fetch
  cases source.feed with
  | ranged block => rfl
  | whole block =>
      dsimp only
      cases (block.read env).1 with
      | content bytes =>
          dsimp only
          rw [placeBlock?_eq]
          rfl
      | nothing | failed reason => rfl

namespace Layout

variable {layout : Layout} {cells : List Cell} {count : Nat}

/-- Cuts cells, which must make whole lines, into lines whose distances from the top must be
words. -/
def lines? (layout : Layout) (top : Address) (cells : List Cell) : Option (List Line) :=
  if layout.width ∣ cells.length then
    (fullChunks layout.width cells).zipIdx.mapM fun (cells, index) => do
      let units ← Word.mul? index layout.lineUnits
      return { address := top.offset units, cells, index, filler := layout.filler }
  else none

/-- The lines of a window lie within words above its top. -/
theorem units_lt_bound (fits : layout.width * count ≤ windowLimit) {index : Nat}
    (inside : index < count) : index * layout.lineUnits < Word.bound :=
  calc index * layout.lineUnits
      ≤ count * layout.width := Nat.mul_le_mul (Nat.le_of_lt inside) layout.lineUnits_le_width
    _ = layout.width * count := Nat.mul_comm _ _
    _ ≤ windowLimit := fits
    _ < Word.bound := by decide

theorem length_fullChunks (usable : layout.Usable)
    (length : cells.length = layout.width * count) :
    (fullChunks layout.width cells).length = count := by
  have lines := length_lines usable length .zero
  rwa [Layout.lines, List.length_mapIdx] at lines

theorem lines?_eq (usable : layout.Usable) (length : cells.length = layout.width * count)
    (fits : layout.width * count ≤ windowLimit) (top : Address) :
    layout.lines? top cells = some (layout.lines top cells) := by
  rw [lines?, if_pos (length ▸ Nat.dvd_mul_right _ _), Layout.lines, List.mapIdx_eq_zipIdx_map]
  apply mapM_eq_some_of_agree
  rintro ⟨piece, index⟩ member
  have inside : index < count := by
    rw [← length_fullChunks usable length]
    exact List.snd_lt_of_mem_zipIdx member
  dsimp only
  rw [Word.mul?_of_lt (units_lt_bound fits inside)]
  rfl

end Layout

namespace Pane

variable {σ η : Type} [Host η] {pane : Pane σ η}

/-! ## Loading -/

def highlight? (pane : Pane σ η) (afresh : Bool) (line : Line) : Option (Line × Tally) :=
  if pane.source.marksChanges then some ({ line with reliable := line.allKnown }, {})
  else
    let line := line.forget
    if Host.showsFailure pane.host then some (line, {})
    else match pane.snapshot.find? line.address with
      | some earlier => { line with reliable := true }.highlight? earlier afresh
      | none => some (line, {})

def rebuild? (pane : Pane σ η) (top : Address) (cells : List Cell) (afresh : Bool) :
    Option (Pane σ η) := do
  let lines ← pane.layout.lines? top cells
  let highlighted ← lines.mapM (pane.highlight? afresh)
  return { pane with
    window := highlighted.map Prod.fst
    tally := .sum (highlighted.map Prod.snd)
    top := some top }

def receive? (pane : Pane σ η) (top : Address) (extent : Layout.Extent) (afresh : Bool)
    (reply : Reply (List Cell)) : Option (LoadResult × Pane σ η) := do
  let pane ← pane.rebuild? top (padCells extent.bytes (reply.getD [])) afresh
  match reply.failure? with
  | none => return (.loaded, { pane with host := Host.showTable pane.host })
  | some failure =>
    return (.substituted failure, { pane with host := Host.showFailure failure pane.host })

/-- The load that stops where a check fails. -/
def loadAt? (pane : Pane σ η) (start : Address) (lines : Nat) (afresh : Bool) (env : σ) :
    Option (LoadResult × Pane σ η × σ) :=
  if pane.disposed then some (.disposed, pane, env)
  else if (pane.source.status env).isGone then some (.targetGone, pane, env)
  else match pane.layout.extent? lines with
    | none => some (.refused (.badConfig (.oversizedWindow lines Layout.windowLimit)), pane, env)
    | some extent => do
      let top := start.alignDown pane.layout.alignment
      let (reply, env) ← pane.source.fetch? top extent env
      let (outcome, pane) ← pane.receive? top extent afresh reply
      return (outcome, pane, env)

theorem WellFormed.highlight?_eq (wf : pane.WellFormed) {line : Line}
    (size : line.size = pane.layout.width) (afresh : Bool) :
    pane.highlight? afresh line = some (pane.highlight afresh line) := by
  unfold highlight? highlight
  split
  · rfl
  · dsimp only
    split
    · rfl
    · cases held : pane.snapshot.find? line.forget.address with
      | none => rfl
      | some earlier =>
          have sizes : ({ line.forget with reliable := true } : Line).size = earlier.size :=
            line.size_forget.trans (wf.size_eq_of_find? size held)
          dsimp only
          rw [Line.highlight?_eq, if_pos sizes]

theorem WellFormed.rebuild?_eq (wf : pane.WellFormed) {cells : List Cell} {count : Nat}
    (length : cells.length = pane.layout.width * count)
    (fits : pane.layout.width * count ≤ Layout.windowLimit) (top : Address) (afresh : Bool) :
    pane.rebuild? top cells afresh = some (pane.rebuild top cells afresh) := by
  have highlighted : (pane.layout.lines top cells).mapM (pane.highlight? afresh) =
      some ((pane.layout.lines top cells).map (pane.highlight afresh)) :=
    mapM_eq_some_of_agree fun _ member =>
      wf.highlight?_eq (Layout.size_of_mem_lines wf.usable length member) afresh
  rw [rebuild?, Layout.lines?_eq wf.usable length fits, Option.bind_eq_bind, Option.bind_some,
    highlighted]
  rfl

theorem WellFormed.receive?_eq (wf : pane.WellFormed) {lines : Nat}
    (fits : pane.layout.width * lines ≤ Layout.windowLimit) (top : Address) (units : Nat)
    (afresh : Bool) (reply : Reply (List Cell)) :
    pane.receive? top ⟨pane.layout.width * lines, units⟩ afresh reply =
      some (pane.receive top ⟨pane.layout.width * lines, units⟩ afresh reply) := by
  rw [receive?, wf.rebuild?_eq (length_padCells _ _) fits]
  cases reply <;> rfl

/-- No check fails in a load of a well-formed pane, be it refused or not. -/
theorem WellFormed.loadAt?_eq (wf : pane.WellFormed) (start : Address) (lines : Nat)
    (afresh : Bool) (env : σ) :
    pane.loadAt? start lines afresh env = some (pane.loadAt start lines afresh env) := by
  unfold loadAt? loadAt
  split
  · rfl
  · split
    · rfl
    · cases measured : pane.layout.extent? lines with
      | none => rfl
      | some extent =>
          rw [Layout.extent?_eq, Option.ite_none_right_eq_some] at measured
          rcases measured with ⟨fits, eq⟩
          obtain rfl := Option.some.inj eq
          dsimp only
          rw [Source.fetch?_eq, Option.bind_eq_bind, Option.bind_some, wf.receive?_eq fits]
          rfl

/-! ## What the checks find -/

/-- A load that keeps to the words of a machine and to what it asserts. -/
structure KeepsBounds (pane : Pane σ η) (start : Address) (lines : Nat) (afresh : Bool)
    (env : σ) : Prop where
  /-- The load passes every check, with the same result. -/
  checked : pane.loadAt? start lines afresh env = some (pane.loadAt start lines afresh env)
  /-- The units from the top of the window to a line are a word. -/
  units : ∀ index < lines, index * pane.layout.lineUnits < Word.bound
  /-- A block that does not begin below the window stands behind a gap no wider than the window. -/
  gap : ∀ place distance,
    (start.alignDown pane.layout.alignment).distanceTo? place = some distance →
    ∃ gap ≤ pane.layout.width * lines, ∀ bytes,
      placeBlock place (start.alignDown pane.layout.alignment) (pane.layout.width * lines) bytes =
        List.replicate gap .placeholder ++
          (bytes.take (pane.layout.width * lines - gap)).map .ofByte
  /-- The window is made of the buffer. -/
  rebuilt : ∃ host, (pane.loadAt start lines afresh env).2.1 =
    { pane.rebuild (start.alignDown pane.layout.alignment) (pane.buffer start lines env)
        afresh with host }
  divided : pane.layout.width ∣ (pane.buffer start lines env).length
  /-- No cell is lost where the buffer is cut. -/
  whole : (fullChunks pane.layout.width (pane.buffer start lines env)).flatten =
    pane.buffer start lines env
  shown : (fullChunks pane.layout.width (pane.buffer start lines env)).length = lines ∧
    (pane.loadAt start lines afresh env).2.1.window.length = lines
  /-- Whatever line is compared with another has its size. -/
  sizes : ∀ line ∈ pane.layout.lines (start.alignDown pane.layout.alignment)
      (pane.buffer start lines env),
    ∀ earlier, pane.snapshot.find? line.address = some earlier → line.size = earlier.size

theorem keepsBounds_of_built (reach : pane.Reachable) {start : Address} {lines : Nat}
    {afresh : Bool} {env : σ}
    (built : (pane.loadAt start lines afresh env).1.buildsWindow = true) :
    pane.KeepsBounds start lines afresh env := by
  have wf := reach.wellFormed
  have accepts := buildsWindow_loadAt_iff.mp built
  have length := pane.length_buffer start lines env
  have divided : pane.layout.width ∣ (pane.buffer start lines env).length :=
    length ▸ Nat.dvd_mul_right _ _
  obtain ⟨result, host, next, -, eq⟩ := exists_loadAt_eq_buffer accepts start
  exact {
    checked := wf.loadAt?_eq start lines afresh env
    units := fun index inside => Layout.units_lt_bound accepts.2.2 inside
    gap := by
      intro place distance above
      refine ⟨min distance (pane.layout.width * lines), Nat.min_le_right _ _, fun bytes => ?_⟩
      rw [placeBlock, above]
    rebuilt := ⟨host, by rw [eq]⟩
    divided
    whole := by rw [fullChunks_eq_chunks divided, flatten_chunks wf.usable.width_pos]
    shown := by
      rw [eq]
      exact ⟨Layout.length_fullChunks wf.usable length,
        length_window_rebuild wf.usable length _ afresh⟩
    sizes := fun line member earlier held =>
      wf.size_eq_of_find? (Layout.size_of_mem_lines wf.usable length member) held }

/-- After a write, a load compares both of its lines with those that were shown before. -/
theorem keepsBounds_of_built_sample :
    let pane := Sample.pane.run [.loadAt ⟨0x1000⟩ 2 false Sample.image, .refresh Sample.written]
    pane.snapshot.size = 2 ∧ pane.KeepsBounds ⟨0x1003⟩ 2 false Sample.written :=
  ⟨by decide +kernel, keepsBounds_of_built (Sample.reachable_run _) rfl⟩

/-- The checks do find a snapshot that holds an empty line, which no run of the pane leaves. -/
example :
    let line : Line := { address := ⟨0x1000⟩, cells := [], index := 0, filler := "??" }
    ({ Sample.pane with snapshot := ⟨[line]⟩ }.loadAt? ⟨0x1000⟩ 1 false Sample.image).isNone := by
  decide +kernel

end Pane

end MemoryPane
