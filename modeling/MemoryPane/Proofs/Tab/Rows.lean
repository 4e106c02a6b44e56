import MemoryPane.Proofs.Pane.Content
import MemoryPane.Proofs.Rendering.Hex
import MemoryPane.Proofs.Tab.Run

/-!
What the rows of a hexadecimal tab over an image show: the image. `Row.Shows` says this of one row,
its address, its columns and the bytes in them, and `shows_of_loaded` proves it of every row after
every load that succeeded.
-/

namespace MemoryPane

/-! ## The text of a row -/

/-- How a byte appears in a row: its two digits, or question marks where there is none. -/
def byteText : Option UInt8 → List Char
  | some value => [upperDigit (value.toNat / 16), upperDigit (value.toNat % 16)]
  | none => ['?', '?']

theorem Rendering.hexText_eq {line : Line} (filler : line.filler = "??") (cell : Cell) :
    hexText line cell = byteText cell.content? := by
  rw [hexText_eq_pairText, pairText, filler]
  cases cell.content? <;> rfl

/-- The row shows the bytes of an image from an address on, of which bytes of lower addresses stand
at negative offsets. -/
structure Row.Shows (layout : Layout) (columnSize : Nat) (image : Image) (a : Address)
    (row : Row) : Prop where
  address : Address.ofHex? row.address = some a
  /-- There is a column for every `columnSize` bytes begun. -/
  columns : row.columns.length = (layout.width + columnSize - 1) / columnSize
  text : String.join row.columns =
    String.ofList ((List.range layout.width).flatMap fun (k : Nat) =>
      byteText (image.byteAt? (((a.value : Int) - image.base) * layout.unit + k)))

namespace Tab

variable {σ η : Type} [Host η] {tab : Tab σ η}

/-- How an action ends that loads and tells so. -/
def outcome? (tab : Tab σ η) : Action σ η → Option LoadResult
  | .load env => some (tab.load env).1
  | .setEnabled enabled env => (tab.setEnabled enabled env).1
  | .onPane action => tab.pane.outcome? action
  | _ => none

/-- The environment in which the action happens, if it matters. -/
def Action.env? : Action σ η → Option σ
  | .load env | .setEnabled _ env | .catchUp _ env => some env
  | .onPane action => action.env?
  | _ => none

/-! ## Loads of a tab -/

/-- A load of the tab is a load of its pane, after what leaves source and layout of it. -/
theorem exists_outcome?_pane {action : Action σ η} {result : LoadResult}
    (ends : tab.outcome? action = some result) :
    ∃ steps load, (tab.act action).pane = (tab.pane.run steps).act load ∧
      (tab.act action).rendering = tab.rendering ∧ load.env? = action.env? ∧
      (tab.pane.run steps).outcome? load = some result ∧
      (tab.pane.run steps).source = tab.pane.source ∧
      (tab.pane.run steps).layout = tab.pane.layout := by
  cases action with
  | load env => exact ⟨[], .loadView env, rfl, rfl, rfl, ends, rfl, rfl⟩
  | setEnabled enabled env =>
      unfold outcome? setEnabled at ends
      unfold act setEnabled
      dsimp only at ends ⊢
      split at ends
      · contradiction
      next turnsOn =>
          rw [if_neg turnsOn]
          exact ⟨[.settle], .loadView env, rfl, rfl, rfl, ends, rfl, rfl⟩
  | onPane action => exact ⟨[], action, rfl, rfl, rfl, ends, rfl, rfl⟩
  | catchUp | setLabel | close | dispose => contradiction

/-! ## The rows of an image -/

variable {focus : Focus σ Image} {addressSize unit columnSize : Nat} {marks : Bool}
  {id label : String}

omit [Host η] in
/-- A line that holds what an image has at its addresses is shown as a row of the image. -/
theorem shows_row {layout : Layout} {image : Image}
    (rendering : tab.rendering = .hex id label columnSize) {line : Line}
    (filler : line.filler = "??")
    (contents : line.contents = (List.range layout.width).map fun (k : Nat) =>
      image.byteAt? (((line.address.value : Int) - image.base) * layout.unit + k)) :
    (tab.row line).Shows layout (max columnSize 1) image line.address := by
  have pos : 0 < max columnSize 1 := Nat.le_max_right _ _
  have full : line.size = layout.width := by
    simpa using congrArg List.length contents
  have columns : (tab.row line).columns =
      Rendering.groupedColumns (max columnSize 1) Rendering.hexText line := by
    rw [row, rendering]
    rfl
  constructor
  · exact line.address.ofHex?_toPaddedHex _
  · rw [columns, Rendering.length_groupedColumns pos, full]
  · have text : line.cells.flatMap (Rendering.hexText line) = line.contents.flatMap byteText := by
      rw [Line.contents, List.flatMap_map]
      congr 1
      funext cell
      exact Rendering.hexText_eq filler cell
    rw [columns, Rendering.join_groupedColumns pos, text, contents, List.flatMap_map]

/-- After every load that succeeded, each row shows what the image has at the addresses of the row,
and the rows follow one another from the top of the window on. -/
theorem shows_of_loaded (reach : tab.Reachable)
    (feed : tab.pane.source.feed = focus.feed (.ranged (Image.rangedBlock addressSize unit marks)))
    (rendering : tab.rendering = .hex id label columnSize)
    (filler : tab.pane.layout.filler = "??") {action : Action σ η} {env : σ}
    (happens : action.env? = some env) (words : (focus.get env).InWords unit)
    (loaded : tab.outcome? action = some .loaded) :
    ∀ (i : Nat) (row : Row), (tab.act action).rows[i]? = some row →
      ∃ top, (tab.act action).pane.top = some top ∧
        row.Shows tab.pane.layout (max columnSize 1) (focus.get env)
          (top.offset (i * tab.pane.layout.lineUnits)) := by
  intro i row here
  rw [rows, List.getElem?_map, Option.map_eq_some_iff] at here
  obtain ⟨line, shown, rfl⟩ := here
  rcases exists_outcome?_pane loaded with ⟨steps, load, pane, same, sameEnv, ends, source, layout⟩
  have wf := (reach.pane.run steps).wellFormed
  obtain ⟨start, lines, afresh, env', viewport, happened, built, eq⟩ :=
    Pane.exists_loadAt_of_outcome? ends
  obtain rfl : env = env' := by
    rw [happened, happens] at sameEnv
    exact (Option.some.inj sameEnv).symm
  rw [pane, eq] at shown ⊢
  obtain ⟨top, stands, address, filled, contents⟩ :=
    Pane.contents_of_loaded wf (source ▸ feed) words built shown
  rw [layout] at address filled contents
  refine ⟨top, stands, ?_⟩
  rw [← address]
  exact shows_row (same.trans rendering) (filled.trans filler) contents

/-- The image ends within the second row. -/
theorem shows_of_loaded_sample :
    let next := Sample.tab.act (.load Pane.Sample.image)
    next.rows.map Row.columns =
        [["01020304", "05060708", "090A0B0C", "0D0E0F10"],
          ["11121314", "????????", "????????", "????????"]] ∧
      ∀ (i : Nat) (row : Row), next.rows[i]? = some row →
        ∃ top, next.pane.top = some top ∧
          row.Shows Sample.tab.pane.layout 4 Pane.Sample.image (top.offset (i * 16)) :=
  have feed : Sample.tab.pane.source.feed =
      Focus.feed ⟨id, fun image _ => image⟩ (.ranged (Image.rangedBlock 0 1 false)) := rfl
  ⟨by decide +kernel,
    shows_of_loaded Sample.reachable_tab feed rfl rfl rfl (by unfold Image.InWords; decide) rfl⟩

end Tab

end MemoryPane
