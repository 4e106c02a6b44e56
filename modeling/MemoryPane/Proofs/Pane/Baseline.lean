import MemoryPane.Proofs.Pane.Content
import MemoryPane.Proofs.Source.Baseline

/-!
Panes over an image that marks changes itself. A `Scene` is such a pane together with the image, so
that a run says what becomes of both: bytes are written, baselines are taken, and the pane loads,
refreshes and hears of events in between. `Scene.committed?` looks up in the run how the image was
when a baseline was last taken.

The marks of the image stand in every window (`Pane.window_rebuild_of_marks`), so that a window just
loaded follows the baseline (`Line.FollowsBaseline`, `Scene.followsBaseline_of_loaded`), whatever
the pane compares with and whatever its host shows.
-/

namespace MemoryPane

/-- The offset in an image of byte `k` of the line, counted from the base over the integers. -/
def Line.offsetIn (layout : Layout) (image : Image) (line : Line) (k : Nat) : Int :=
  ((line.address.value : Int) - image.base) * layout.unit + k

/-- The line tells how an image changed since it was as `earlier?`. A byte is known if it lies in
the image and there is something earlier, and changed if it was another then; the line can be relied
on if all of its bytes are known. -/
structure Line.FollowsBaseline (layout : Layout) (image : Image) (earlier? : Option Image)
    (line : Line) : Prop where
  full : line.size = layout.width
  content : ∀ (k : Nat) (cell : Cell), line.cells[k]? = some cell →
    cell.content? = image.byteAt? (line.offsetIn layout image k)
  known : ∀ (k : Nat) (cell : Cell), line.cells[k]? = some cell →
    (cell.isKnown = true ↔
      earlier?.isSome = true ∧ (image.byteAt? (line.offsetIn layout image k)).isSome = true)
  changed : ∀ (k : Nat) (cell : Cell), line.cells[k]? = some cell →
    (cell.isChanged = true ↔ cell.isKnown = true ∧
      ∃ earlier, earlier? = some earlier ∧
        earlier.byteAt? (line.offsetIn layout image k) ≠
          image.byteAt? (line.offsetIn layout image k))
  reliable : line.reliable = true ↔
    earlier?.isSome = true ∧
      ∀ k < layout.width, (image.byteAt? (line.offsetIn layout image k)).isSome = true

namespace Pane

variable {σ τ η : Type}

/-- The same action in another environment. -/
def Action.within (env : τ) : Action σ η → Action τ η
  | .loadAt start lines afresh _ => .loadAt start lines afresh env
  | .loadView _ => .loadView env
  | .refresh _ => .refresh env
  | .handle event _ => .handle event env
  | .settle => .settle
  | .clearSnapshot => .clearSnapshot
  | .dispose => .dispose
  | .setViewport viewport => .setViewport viewport
  | .setHost host => .setHost host

theorem Action.env?_within (env : τ) (action : Action σ η) :
    (action.within env).env? = action.env?.map fun _ => env := by
  cases action <;> rfl

variable [Host η] {pane : Pane σ η}

/-- The environment that an action leaves; only loads read the source. -/
def leave (pane : Pane σ η) (env : σ) : Action σ η → σ
  | .loadAt start lines afresh _ => (pane.loadAt start lines afresh env).2.2
  | .loadView _ => (pane.loadView env).2.2
  | _ => env

theorem readsOnce_leave (pane : Pane σ η) (env : σ) (action : Action σ η) :
    pane.leave env action = env ∨ pane.ReadsOnce env (pane.leave env action) := by
  cases action with
  | loadAt start lines afresh _ => exact pane.readsOnce_loadAt start lines afresh env
  | loadView _ => exact pane.readsOnce_loadView env
  | refresh | handle | settle | clearSnapshot | dispose | setViewport | setHost => exact .inl rfl

end Pane

/-- A pane over an image, and the image. -/
structure Scene (η : Type) where
  pane : Pane Image η
  image : Image

namespace Scene

variable {η : Type}

/-- What can happen to a pane over an image and to the image. -/
inductive Action (η : Type) where
  | onImage (action : Image.Action)
  /-- Something that happens to the pane, with the image as it is at that moment. -/
  | onPane (action : Pane.Action Unit η)

/-- The image of which the action takes a baseline. -/
def taken? (scene : Scene η) : Action η → Option Image
  | .onImage .takeBaseline => some scene.image
  | _ => none

variable [Host η]

/-- The scene after an action. -/
def act (scene : Scene η) : Action η → Scene η
  | .onImage action => { scene with image := scene.image.act action }
  | .onPane action => {
      pane := scene.pane.act (action.within scene.image)
      image := scene.pane.leave scene.image (action.within scene.image) }

/-- The scene after a sequence of actions. -/
def run (scene : Scene η) (actions : List (Action η)) : Scene η := actions.foldl act scene

@[simp] theorem run_cons (scene : Scene η) (action : Action η) (actions : List (Action η)) :
    scene.run (action :: actions) = (scene.act action).run actions := rfl

/-- How a load by the pane would end. -/
def outcome? (scene : Scene η) (load : Pane.Action Unit η) : Option LoadResult :=
  scene.pane.outcome? (load.within scene.image)

/-- The image as it was when a baseline was last taken of it in a sequence of actions. -/
def committed? (scene : Scene η) : List (Action η) → Option Image
  | [] => none
  | action :: actions => ((scene.act action).committed? actions).or (scene.taken? action)

/-- The scene begins with a new pane, on a block over the image that marks changes, and no baseline
was taken of the image as yet. -/
def Opened (scene : Scene η) (addressSize unit : Nat) : Prop :=
  scene.image.baseline = none ∧
    ∃ (block : BlockNumber) (target : TargetNumber) (host : η) (layout : Layout)
      (viewport : Viewport),
      Pane.create (Image.source block target (.ranged (Image.rangedBlock addressSize unit true)))
        host layout viewport = .ok scene.pane

/-! ## What a run keeps -/

/-- The pane is in good order and shows the image, of which a baseline was last taken when it was as
`earlier?`. -/
structure Watches (scene : Scene η) (addressSize unit : Nat) (earlier? : Option Image) :
    Prop where
  wellFormed : scene.pane.WellFormed
  feed : scene.pane.source.feed = .ranged (Image.rangedBlock addressSize unit true)
  words : scene.image.InWords unit
  remembers : scene.image.Remembers earlier?

variable {scene : Scene η} {addressSize unit : Nat} {earlier? : Option Image}

omit [Host η] in
theorem Opened.watches (opened : scene.Opened addressSize unit)
    (words : scene.image.InWords unit) : scene.Watches addressSize unit none := by
  obtain ⟨fresh, block, target, host, layout, viewport, created⟩ := opened
  obtain ⟨-, eq⟩ := Pane.create_eq_ok_iff.mp created
  exact {
    wellFormed := Pane.WellFormed.create created
    feed := by rw [← eq]; rfl
    words
    remembers := ⟨fresh, by simp, by simp⟩ }

/-- What happens to the pane may read the image, but does nothing else to it. -/
theorem Watches.leave_eq (watches : scene.Watches addressSize unit earlier?)
    (action : Pane.Action Image η) :
    scene.pane.leave scene.image action = scene.image ∨
      scene.pane.leave scene.image action = scene.image.act .read := by
  rcases scene.pane.readsOnce_leave scene.image action with same | read
  · exact .inl same
  · rw [Pane.ReadsOnce, watches.feed] at read
    obtain ⟨start, units, eq⟩ := read
    exact .inr eq

theorem Watches.act (watches : scene.Watches addressSize unit earlier?) (action : Action η) :
    (scene.act action).Watches addressSize unit ((scene.taken? action).or earlier?) := by
  cases action with
  | onImage action =>
      have taken : (scene.taken? (.onImage action)).or earlier? =
          if action = .takeBaseline then some scene.image else earlier? := by
        cases action <;> rfl
      rw [taken]
      exact ⟨watches.wellFormed, watches.feed, watches.words.act action,
        watches.remembers.act action⟩
  | onPane action =>
      have step := scene.pane.transition_act (action.within scene.image)
      have image : (scene.act (.onPane action)).image.InWords unit ∧
          (scene.act (.onPane action)).image.Remembers earlier? := by
        rcases watches.leave_eq (action.within scene.image) with same | read
        · simp only [Scene.act, same]
          exact ⟨watches.words, watches.remembers⟩
        · simp only [Scene.act, read]
          exact ⟨watches.words.act .read, watches.remembers.act .read⟩
      exact {
        wellFormed := watches.wellFormed.transition step
        feed := by
          show (scene.pane.act _).source.feed = _
          rw [step.frame.1, watches.feed]
        words := image.1
        remembers := image.2 }

theorem Watches.run (watches : scene.Watches addressSize unit earlier?)
    (actions : List (Action η)) :
    (scene.run actions).Watches addressSize unit ((scene.committed? actions).or earlier?) := by
  induction actions generalizing scene earlier? with
  | nil => exact watches
  | cons action actions ih =>
      rw [run_cons, committed?, Option.or_assoc]
      exact ih (watches.act action)

/-! ## What a load shows -/

omit [Host η] in
/-- A line of the cells that belong to its addresses follows the baseline. -/
theorem followsBaseline_of_cells {layout : Layout} {image : Image} (pos : 0 < layout.width)
    (remembers : image.Remembers earlier?) {fresh : Line}
    (cells : fresh.cells = (List.range layout.width).map fun (k : Nat) =>
      image.cellAt true (fresh.offsetIn layout image k)) :
    Line.FollowsBaseline layout image earlier? { fresh with reliable := fresh.allKnown } := by
  have here : ∀ (k : Nat) (cell : Cell), fresh.cells[k]? = some cell →
      cell = image.cellAt true (fresh.offsetIn layout image k) := by
    intro k cell stands
    rw [cells, List.getElem?_map, Option.map_eq_some_iff] at stands
    obtain ⟨place, inside, rfl⟩ := stands
    obtain ⟨_, same⟩ := List.getElem?_eq_some_iff.mp inside
    rw [List.getElem_range] at same
    rw [same]
  have known : ∀ k, (image.cellAt true (fresh.offsetIn layout image k)).isKnown = true ↔
      earlier?.isSome = true ∧ (image.byteAt? (fresh.offsetIn layout image k)).isSome = true := by
    intro k
    rw [remembers.isKnown_cellAt, Bool.and_eq_true]
  exact {
    full := by rw [Line.size, cells, List.length_map, List.length_range]
    content := by
      intro k cell stands
      rw [here k cell stands]
      exact Image.content?_cellAt image true _
    known := by
      intro k cell stands
      rw [here k cell stands]
      exact known k
    changed := by
      intro k cell stands
      rw [← remembers.isChanged_cellAt_iff, here k cell stands]
      exact (and_iff_right_of_imp Cell.isKnown_of_isChanged).symm
    reliable := by
      show fresh.cells.all Cell.isKnown = true ↔ _
      rw [cells, List.all_map, List.all_eq_true]
      simp only [List.mem_range, Function.comp_apply, known]
      constructor
      · intro all
        exact ⟨(all 0 pos).1, fun k inside => (all k inside).2⟩
      · rintro ⟨taken, held⟩ k inside
        exact ⟨taken, held k inside⟩ }

/-- After a load that succeeded, every line follows the baseline that was last taken of the image.
The window depends on nothing else: whatever another pane went through, it builds the same of the
same addresses. -/
theorem followsBaseline_of_loaded {start : Scene η} (opened : start.Opened addressSize unit)
    (words : start.image.InWords unit) (actions : List (Action η)) :
    (∀ load : Pane.Action Unit η, (start.run actions).outcome? load = some .loaded →
      ∀ line ∈ ((start.run actions).act (.onPane load)).pane.window,
        line.FollowsBaseline (start.run actions).pane.layout (start.run actions).image
          (start.committed? actions)) ∧
    ∀ (other : Pane Image η) (a : Address) (lines : Nat) (afresh afresh' : Bool),
      other.source = (start.run actions).pane.source →
      other.layout = (start.run actions).pane.layout →
      ((start.run actions).pane.loadAt a lines afresh (start.run actions).image).1 = .loaded →
      (other.loadAt a lines afresh' (start.run actions).image).1 = .loaded →
        (other.loadAt a lines afresh' (start.run actions).image).2.1.window =
          ((start.run actions).pane.loadAt a lines afresh
            (start.run actions).image).2.1.window := by
  obtain ⟨wf, feed, words, remembers⟩ := (opened.watches words).run actions
  rw [Option.or_none] at remembers
  generalize start.run actions = scene at wf feed words remembers ⊢
  have marks : scene.pane.source.marksChanges = true := by
    rw [Source.marksChanges, feed]
    rfl
  constructor
  · intro load loaded line member
    obtain ⟨a, lines, afresh, image, viewport, happens, built, eq⟩ :=
      Pane.exists_loadAt_of_outcome? loaded
    obtain rfl : scene.image = image := by
      rw [Pane.Action.env?_within, Option.map_eq_some_iff] at happens
      exact happens.choose_spec.2
    rw [act, eq] at member
    obtain ⟨i, here⟩ := List.mem_iff_getElem?.mp member
    -- the whole environment is the image
    let focus : Focus Image Image := ⟨id, fun image _ => image⟩
    obtain ⟨top, fresh, -, rfl, -, -, cells⟩ :=
      Pane.exists_fresh_of_loaded wf (show _ = focus.feed _ from feed) words built here
    rw [Pane.highlight_of_marks marks]
    exact followsBaseline_of_cells wf.usable.width_pos remembers cells
  · intro other a lines afresh afresh' source layout loaded loaded'
    obtain ⟨answer, host, read, eq⟩ := Pane.exists_answer_of_loaded loaded
    obtain ⟨answer', host', read', eq'⟩ := Pane.exists_answer_of_loaded loaded'
    rw [source, layout, read] at read'
    obtain rfl : answer = answer' := Reply.content.inj read'
    rw [eq, eq']
    dsimp only
    rw [Pane.window_rebuild_of_marks marks, Pane.window_rebuild_of_marks (source ▸ marks), layout]

/-- A new pane on the image that marks changes itself. -/
def sample : Scene Recorder where
  pane := { Pane.Sample.pane with
    source := Image.source ⟨1⟩ ⟨1⟩ (.ranged (Image.rangedBlock 0 1 true)) }
  image := Pane.Sample.image

theorem opened_sample : sample.Opened 0 1 :=
  ⟨rfl, ⟨1⟩, ⟨1⟩, {}, {}, {}, rfl⟩

/-- One byte is written before the baseline is taken and one after it. The load follows on a
refresh, compares afresh, and the host still shows that an earlier load failed. All the same one of
the 20 bytes of the image is changed, in a line that can be relied on, and a new pane shows no
other. -/
theorem followsBaseline_of_loaded_sample :
    let before : List (Action Recorder) :=
      [.onImage (.write 0x1001 [88]), .onImage .takeBaseline, .onImage (.write 0x1003 [99]),
        .onPane (.refresh ()), .onImage (.setOutage (some .silent)),
        .onPane (.loadAt ⟨0x1000⟩ 2 true ()), .onImage (.setOutage none)]
    let load : Pane.Action Unit Recorder := .loadAt ⟨0x1000⟩ 2 true ()
    let scene := sample.run before
    let window := (scene.act (.onPane load)).pane.window
    scene.pane.host.failing = true ∧ scene.outcome? load = some .loaded ∧
      window.map Line.reliable = [true, false] ∧
      (window.map fun line => line.cells.countP Cell.isChanged) = [1, 0] ∧
      (∀ line ∈ window,
        line.FollowsBaseline scene.pane.layout scene.image (sample.committed? before)) ∧
      (sample.pane.loadAt ⟨0x1000⟩ 2 false scene.image).2.1.window = window := by
  intro before load scene window
  have loaded : scene.outcome? load = some .loaded := by decide +kernel
  obtain ⟨follows, same⟩ := followsBaseline_of_loaded opened_sample
    (by unfold Image.InWords; decide) before
  exact ⟨by decide +kernel, loaded, by decide +kernel, by decide +kernel, follows load loaded,
    same sample.pane ⟨0x1000⟩ 2 true false rfl rfl (by decide +kernel) (by decide +kernel)⟩

end Scene

end MemoryPane
