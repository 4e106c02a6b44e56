import MemoryPane.Proofs.Source.Baseline

/-!
Reads of an image as a whole. A read that does not fail answers with a front part of one list, which
holds a placeholder for every byte of the units below the base and behind them all that the image
has (`answers_readUnits`). What the cells of this list say about changes is told by what the image
was when a baseline was last taken (`Holds`).

A read from an address that is no word answers with nothing, whereas one that begins below goes on
through the image. So a read can be split into two wherever the second one begins at a word, and
elsewhere only if the first has come to the end of the image (`splits_iff`).
-/

namespace MemoryPane.Image

variable {image : Image} {earlier? : Option Image} {unit : Nat} {marking : Bool}

/-! ## One read -/

/-- The cells are those of all bytes of the image, in order: content that can be written to. If
`marking`, all of them are known once there is an earlier image, and changed where it had other
bytes; otherwise none is known. -/
structure ListedAs (image : Image) (marking : Bool) (earlier? : Option Image)
    (cells : List Cell) : Prop where
  length : cells.length = image.bytes.size
  content : ∀ (k : Nat) (cell : Cell), cells[k]? = some cell →
    image.bytes[k]? = some cell.value ∧ cell.forget = .ofByte cell.value
  known : ∀ (k : Nat) (cell : Cell), cells[k]? = some cell →
    (cell.isKnown = true ↔ marking = true ∧ earlier?.isSome = true)
  changed : ∀ (k : Nat) (cell : Cell), cells[k]? = some cell →
    (cell.isChanged = true ↔ marking = true ∧
      ∃ earlier, earlier? = some earlier ∧ earlier.bytes[k]? ≠ some cell.value)

theorem forget_cell (image : Image) (marking : Bool) (offset : Nat) (value : UInt8) :
    (image.cell marking offset value).forget = .ofByte value := by
  unfold cell
  split <;> rfl

/-- A cell of the list is the one of the byte in its place. -/
theorem cell_of_getElem?_cells {k : Nat} {cell : Cell}
    (here : (image.cells marking)[k]? = some cell) :
    image.bytes[k]? = some cell.value ∧ image.cell marking k cell.value = cell ∧
      image.cellAt marking k = cell := by
  have place : image.cellAt marking k = cell := by
    rw [← cell_cells, here]
    rfl
  rw [cells, List.getElem?_mapIdx, Array.getElem?_toList, Option.map_eq_some_iff] at here
  obtain ⟨value, held, rfl⟩ := here
  have own : (image.cell marking k value).value = value :=
    congrArg Cell.value (image.forget_cell marking k value)
  rw [own]
  exact ⟨held, rfl, place⟩

theorem Remembers.listedAs_cells (remembers : image.Remembers earlier?) (marking : Bool) :
    image.ListedAs marking earlier? (image.cells marking) where
  length := by rw [cells, List.length_mapIdx, Array.length_toList]
  content := by
    intro k cell here
    obtain ⟨held, own, -⟩ := cell_of_getElem?_cells here
    have bare := image.forget_cell marking k cell.value
    rw [own] at bare
    exact ⟨held, bare⟩
  known := by
    intro k cell here
    obtain ⟨held, own, place⟩ := cell_of_getElem?_cells here
    cases marking with
    | false =>
        rw [← own]
        exact iff_of_false Bool.false_ne_true (by simp)
    | true =>
        have inside : (image.byteAt? k).isSome = true := congrArg Option.isSome held
        rw [← place, remembers.isKnown_cellAt, inside, Bool.and_true, eq_self, true_and]
  changed := by
    intro k cell here
    obtain ⟨held, own, place⟩ := cell_of_getElem?_cells here
    cases marking with
    | false =>
        rw [← own]
        exact iff_of_false Bool.false_ne_true (by simp)
    | true =>
        rw [← held, eq_self, true_and, ← place]
        exact remembers.isChanged_cellAt_iff k

/-- Whatever happened to an image, a read that does not fail answers with as many cells as it asks
for of those below the base, which are placeholders, and all those of the image, from the one on
that belongs to the start. It answers with nothing if the start is no word. Every read is counted,
whether it fails or not. -/
theorem answers_readUnits (base : Nat) (bytes : Array UInt8) (actions : List Action)
    (unit : Nat) (marking : Bool) (start : Address) (units : Nat) :
    let fresh : Image := { base, bytes }
    let image := fresh.run actions
    let result := readUnits unit marking start units image
    let size := max unit 1
    result.2 = { image with reads := image.reads + 1 } ∧
      (image.outage = none → Word.bound ≤ start.value → result.1 = .content []) ∧
      (image.outage = none → start.value < Word.bound →
        ∃ cells, image.ListedAs marking (fresh.taken? actions) cells ∧
          result.1 = .content
            ((List.replicate ((image.base - start.value) * size) Cell.placeholder ++
              cells.drop ((start.value - image.base) * size)).take (units * size))) := by
  intro fresh image result size
  have new : fresh.Remembers none := ⟨rfl, by simp, by simp⟩
  have remembers := new.run actions
  rw [Option.or_none] at remembers
  refine ⟨rfl, ?_, ?_⟩
  · intro up wide
    exact fst_readUnits_eq_content_iff.mpr ⟨up, if_neg (Nat.not_lt.mpr wide)⟩
  · intro up word
    exact ⟨image.cells marking, remembers.listedAs_cells marking,
      fst_readUnits_eq_content_iff.mpr ⟨up, if_pos word⟩⟩

/-- One byte is written before the baseline is taken and one after it. The read begins at the unit
below the base, and the one before it failed. -/
theorem answers_readUnits_sample :
    let actions : List Action :=
      [.write 0x12 [99], .takeBaseline, .write 0x11 [88], .setOutage (some .silent), .read,
        .setOutage none]
    let fresh : Image := { base := 0x10, bytes := #[1, 2, 3, 4, 5] }
    let image := fresh.run actions
    let result := readUnits 2 true ⟨0xf⟩ 3 image
    result.2 = { image with reads := 2 } ∧
      result.1 = .content ([.placeholder, .placeholder] ++
        [(1, false), (88, true), (99, false), (4, false)].map fun (value, changed) =>
          (Cell.ofByte value).setChanged changed) ∧
      ∃ cells, image.ListedAs true (fresh.taken? actions) cells ∧
        result.1 = .content
          ((List.replicate 2 Cell.placeholder ++ cells.drop 0).take 6) := by
  intro actions fresh image result
  obtain ⟨counted, -, answers⟩ := answers_readUnits 0x10 #[1, 2, 3, 4, 5] actions 2 true ⟨0xf⟩ 3
  exact ⟨counted, by decide +kernel, answers rfl (by decide)⟩

/-! ## Two reads for one -/

/-- Reading `a` units and from there `b` more answers with the same cells as reading all of them at
once. -/
def Splits (image : Image) (unit : Nat) (marking : Bool) (start : Address) (a b : Nat) : Prop :=
  let first := readUnits unit marking start a image
  let second := readUnits unit marking (start.offset a) b first.2
  ∃ front back, first.1 = .content front ∧ second.1 = .content back ∧
    (readUnits unit marking start (a + b) image).1 = .content (front ++ back)

/-- The image has no byte at the address or above it. -/
def EndsBelow (image : Image) (unit address : Nat) : Prop :=
  image.base ≤ address ∧ image.bytes.size ≤ (address - image.base) * unit

theorem cellsFrom_add (marking : Bool) (address units : Nat) :
    image.cellsFrom unit marking (address + units) =
      (image.cellsFrom unit marking address).drop (units * unit) := by
  induction units with
  | zero => rw [Nat.zero_mul, List.drop_zero, Nat.add_zero]
  | succ units ih => rw [← Nat.add_assoc, cellsFrom_succ, ih, List.drop_drop, Nat.succ_mul]

theorem cellsFrom_eq_nil_iff (pos : 0 < unit) {address : Nat} :
    image.cellsFrom unit marking address = [] ↔ image.EndsBelow unit address := by
  unfold cellsFrom EndsBelow cells
  rw [List.append_eq_nil_iff, List.replicate_eq_nil_iff, List.drop_eq_nil_iff, List.length_mapIdx,
    Array.length_toList, Nat.mul_eq_zero, or_iff_left (Nat.ne_of_gt pos), Nat.sub_eq_zero_iff_le]

theorem splits_iff_answer_eq (up : image.outage = none) {start : Address} {a b : Nat} :
    image.Splits unit marking start a b ↔
      image.answer unit marking start (a + b) =
        image.answer unit marking start a ++ image.answer unit marking (start.offset a) b := by
  have still : (readUnits unit marking start a image).2.outage = none := up
  constructor
  · rintro ⟨front, back, first, second, whole⟩
    obtain ⟨-, rfl⟩ := fst_readUnits_eq_content_iff.mp first
    obtain ⟨-, rfl⟩ := fst_readUnits_eq_content_iff.mp second
    exact (fst_readUnits_eq_content_iff.mp whole).2
  · intro eq
    exact ⟨_, _, fst_readUnits_eq_content_iff.mpr ⟨up, rfl⟩,
      fst_readUnits_eq_content_iff.mpr ⟨still, rfl⟩, fst_readUnits_eq_content_iff.mpr ⟨up, eq⟩⟩

/-- A read can be split in two unless it begins at a word, the second part does not, and there are
bytes of the image left for it. -/
theorem splits_iff (up : image.outage = none) (unit : Nat) (marking : Bool) (start : Address)
    (a b : Nat) :
    image.Splits unit marking start a b ↔
      start.value + a < Word.bound ∨ Word.bound ≤ start.value ∨ b = 0 ∨
        image.EndsBelow (max unit 1) (start.value + a) := by
  have pos : 0 < max unit 1 := Nat.le_max_right _ _
  have ends : image.cellsFrom (max unit 1) marking (start.value + a) = [] ↔
      image.EndsBelow (max unit 1) (start.value + a) := cellsFrom_eq_nil_iff pos
  -- what the image holds from the second start on is what the first read leaves of it
  have left : image.cellsFrom (max unit 1) marking (start.value + a) =
      (image.cellsFrom (max unit 1) marking start.value).drop (a * max unit 1) :=
    cellsFrom_add _ _ _
  have whole : (a + b) * max unit 1 = a * max unit 1 + b * max unit 1 := Nat.add_mul _ _ _
  rw [splits_iff_answer_eq up, ← ends, left]
  unfold answer
  rw [Address.value_offset, left]
  by_cases near : start.value + a < Word.bound
  · rw [if_pos (by omega), if_pos (by omega), if_pos near, whole, List.take_add]
    exact iff_of_true rfl (.inl near)
  · rw [if_neg near, List.append_nil]
    by_cases far : Word.bound ≤ start.value
    · rw [if_neg (by omega), if_neg (by omega)]
      exact iff_of_true rfl (.inr (.inl far))
    · rw [if_pos (by omega), if_pos (by omega), whole, List.take_add, List.append_right_eq_self,
        List.take_eq_nil_iff, Nat.mul_eq_zero, or_iff_left (Nat.ne_of_gt pos), or_iff_right near,
        or_iff_right far]

namespace Sample

/-- Seven bytes, the last four of which have no words for addresses. -/
def high : Image := {
  base := Word.bound - 3
  bytes := #[1, 2, 3, 4, 5, 6, 7] }

end Sample

/-- A read of units of three bytes that begins below the base and asks for more than there is, cut
within the image; and one that passes the last word, cut at the first address that is none. -/
theorem splits_iff_sample :
    let image := (Image.mk 0x10 #[1, 2, 3, 4, 5, 6, 7] .running none none 0).takeBaseline
    image.outage = none ∧ image.Splits 3 true ⟨0xf⟩ 2 5 ∧
      (image.answer 3 true ⟨0xf⟩ 7).map Cell.content? =
        [none, none, none, some 1, some 2, some 3, some 4, some 5, some 6, some 7] ∧
      ¬ Sample.high.Splits 1 false ⟨Word.bound - 3⟩ 3 4 := by
  intro image
  refine ⟨rfl, (splits_iff rfl 3 true ⟨0xf⟩ 2 5).mpr (.inl (by decide)), by decide +kernel, ?_⟩
  rw [splits_iff rfl, EndsBelow]
  decide

/-- Not every read can be split: what lies beyond the words is there for a read that begins below,
and not for one that begins there. -/
theorem not_forall_splits :
    ¬ ∀ (image : Image) (unit : Nat) (marking : Bool) (start : Address) (a b : Nat),
      image.outage = none → image.base < Word.bound → a + b < Word.bound →
      (start.value + (a + b) - image.base) * max unit 1 < Word.bound →
        image.Splits unit marking start a b := by
  intro splits
  have cut := (splits_iff_answer_eq rfl).mp
    (splits Sample.high 1 false ⟨Word.bound - 3⟩ 3 4 rfl (by decide) (by decide) (by decide))
  have lengths : (Sample.high.answer 1 false ⟨Word.bound - 3⟩ (3 + 4)).length = 7 ∧
      (Sample.high.answer 1 false ⟨Word.bound - 3⟩ 3).length = 3 ∧
      (Sample.high.answer 1 false (Address.offset ⟨Word.bound - 3⟩ 3) 4).length = 0 := by
    decide +kernel
  rw [cut, List.length_append] at lengths
  omega

end MemoryPane.Image
