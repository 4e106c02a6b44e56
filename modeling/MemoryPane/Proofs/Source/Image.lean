import MemoryPane.Source.Image

/-!
What reading an image answers with. `Image.cellsFrom` is all that an image holds from an address on,
with placeholders where the address lies below the base; reading units goes through it unit by unit
and gives as much of it as was asked for (`unitsFrom_eq_take`). Each cell of the answer is then the
one that belongs to its offset, counted over the integers (`Image.cellAt`), as long as all bytes of
the image have addresses that are words (`cell_readUnits`).
-/

namespace MemoryPane

namespace Image

variable {image : Image} {unit : Nat}

/-- The byte at an offset, if the image has one there. -/
def byteAt? (image : Image) : Int → Option UInt8
  | .ofNat offset => image.bytes[offset]?
  | .negSucc _ => none

/-- The cell of the byte at an offset, or a placeholder where the image has none. -/
def cellAt (image : Image) (marking : Bool) : Int → Cell
  | .ofNat offset => (image.bytes[offset]?.map (image.cell marking offset)).getD .placeholder
  | .negSucc _ => .placeholder

/-- The address of every byte is a word. -/
def InWords (image : Image) (unit : Nat) : Prop :=
  ∀ j < image.bytes.size, image.base + j / unit < Word.bound

/-- All bytes of the image as cells. -/
def cells (image : Image) (marking : Bool) : List Cell :=
  image.bytes.toList.mapIdx (image.cell marking)

/-- All cells from an address on, with placeholders for the units below the base. -/
def cellsFrom (image : Image) (unit : Nat) (marking : Bool) (address : Nat) : List Cell :=
  List.replicate ((image.base - address) * unit) .placeholder ++
    (image.cells marking).drop ((address - image.base) * unit)

@[simp] theorem content?_cell (image : Image) (marking : Bool) (offset : Nat) (value : UInt8) :
    (image.cell marking offset value).content? = some value := by
  unfold cell
  split <;> rfl

/-! ## Reading unit by unit -/

theorem unitCells_eq_take (marking : Bool) (address : Nat) :
    image.unitCells unit marking address = (image.cellsFrom unit marking address).take unit := by
  unfold unitCells cellsFrom
  split
  next below =>
      have room : unit ≤ (image.base - address) * unit :=
        Nat.le_mul_of_pos_left unit (by omega)
      rw [List.take_append_of_le_length (by rwa [List.length_replicate]), List.take_replicate,
        Nat.min_eq_left room]
  next inside =>
      have none : image.base - address = 0 := by omega
      rw [none, Nat.zero_mul, List.replicate_zero, List.nil_append, cells]
      apply List.ext_getElem?
      intro k
      rw [List.getElem?_mapIdx, List.getElem?_take]
      split
      next short =>
          rw [List.getElem?_drop, List.getElem?_mapIdx]
          simp [short]
      next long =>
          rw [List.getElem?_eq_none]
          · rfl
          · simp only [Array.length_toList, Array.size_extract]
            omega

/-- The next unit begins where this one ends. -/
theorem cellsFrom_succ (marking : Bool) (address : Nat) :
    image.cellsFrom unit marking (address + 1) =
      (image.cellsFrom unit marking address).drop unit := by
  unfold cellsFrom
  rcases Nat.lt_or_ge address image.base with below | inside
  · have gap : image.base - address = image.base - (address + 1) + 1 := by omega
    have none : address - image.base = 0 := by omega
    have still : address + 1 - image.base = 0 := by omega
    rw [gap, none, still, Nat.succ_mul, List.drop_append_of_le_length (by simp),
      List.drop_replicate, Nat.add_sub_cancel]
  · have none : image.base - address = 0 := by omega
    have still : image.base - (address + 1) = 0 := by omega
    have next : address + 1 - image.base = address - image.base + 1 := by omega
    rw [none, still, next, Nat.succ_mul, Nat.zero_mul, List.replicate_zero, List.nil_append,
      List.nil_append, List.drop_drop]

theorem unitsFrom_eq_take (marking : Bool) (address units : Nat) :
    image.unitsFrom unit marking address units =
      (image.cellsFrom unit marking address).take (units * unit) := by
  induction units generalizing address with
  | zero => rw [unitsFrom, Nat.zero_mul, List.take_zero]
  | succ units ih =>
      rw [unitsFrom, unitCells_eq_take, ih, cellsFrom_succ, Nat.succ_mul,
        Nat.add_comm (units * unit), List.take_add]
      split
      next short =>
          rw [List.length_take] at short
          rw [List.drop_eq_nil_of_le (by omega), List.take_nil, List.append_nil]
      next => rfl

@[simp] theorem content?_cellAt (image : Image) (marking : Bool) (offset : Int) :
    (image.cellAt marking offset).content? = image.byteAt? offset := by
  cases offset with
  | negSucc k => rfl
  | ofNat k =>
      cases here : image.bytes[k]? with
      | none => simp [cellAt, byteAt?, here]
      | some value => simp [cellAt, byteAt?, here]

/-! ## The cells of what is read -/

theorem cell_cells (marking : Bool) (k : Nat) :
    (image.cells marking)[k]?.getD .placeholder = image.cellAt marking k := by
  rw [cells, List.getElem?_mapIdx, Array.getElem?_toList]
  rfl

theorem cellAt_of_neg {offset : Int} (negative : offset < 0) (marking : Bool) :
    image.cellAt marking offset = .placeholder := by
  rcases Int.eq_negSucc_of_lt_zero negative with ⟨k, rfl⟩
  rfl

theorem cellAt_of_size_le {k : Nat} (beyond : image.bytes.size ≤ k) (marking : Bool) :
    image.cellAt marking k = .placeholder := by
  show (image.bytes[k]?.map (image.cell marking k)).getD .placeholder = _
  rw [Array.getElem?_eq_none beyond]
  rfl

/-- The offset of byte `p` above an address that does not lie below the base. -/
theorem offset_eq_natCast {address base : Nat} (inside : base ≤ address) (unit p : Nat) :
    ((address : Int) - base) * unit + p = (((address - base) * unit + p : Nat) : Int) := by
  rw [Int.natCast_add, Int.natCast_mul, Int.natCast_sub inside]

/-- Offsets are counted from the base, so that those below it are negative. -/
theorem cell_cellsFrom (marking : Bool) (address p : Nat) :
    (image.cellsFrom unit marking address)[p]?.getD .placeholder =
      image.cellAt marking (((address : Int) - image.base) * unit + p) := by
  unfold cellsFrom
  rcases Nat.le_total image.base address with inside | below
  · have none : image.base - address = 0 := by omega
    rw [offset_eq_natCast inside, none, Nat.zero_mul, List.replicate_zero, List.nil_append,
      List.getElem?_drop, cell_cells]
  · have offset : ((address : Int) - image.base) * unit + p =
        (p : Int) - ((image.base - address) * unit : Nat) := by
      rw [Int.natCast_mul, Int.natCast_sub below, ← Int.neg_sub, Int.neg_mul]
      omega
    have none : address - image.base = 0 := by omega
    rw [offset, none, Nat.zero_mul, List.drop_zero, List.getElem?_append, List.length_replicate]
    split
    next low =>
        rw [List.getElem?_replicate, if_pos low, cellAt_of_neg (by omega)]
        rfl
    next high =>
        rw [cell_cells]
        congr 1
        omega

/-- An image whose bytes have words for addresses holds nothing beyond the words. -/
theorem cellAt_of_bound_le (pos : 0 < unit) (words : image.InWords unit) {address : Nat}
    (wide : Word.bound ≤ address) (marking : Bool) (p : Nat) :
    image.cellAt marking (((address : Int) - image.base) * unit + p) = .placeholder := by
  rcases Nat.le_total image.base address with inside | below
  · rw [offset_eq_natCast inside]
    apply cellAt_of_size_le
    apply Nat.le_of_not_lt
    intro held
    have word := words _ held
    have units : address - image.base ≤ ((address - image.base) * unit + p) / unit := by
      rw [Nat.le_div_iff_mul_le pos]
      exact Nat.le_add_right _ _
    omega
  · cases offset : ((address : Int) - image.base) * unit + p with
    | negSucc k => rfl
    | ofNat k =>
        apply cellAt_of_size_le
        apply Nat.le_of_not_lt
        intro held
        have word := words k held
        have low : image.base ≤ image.base + k / unit := Nat.le_add_right _ _
        exact Nat.not_lt.mpr (Nat.le_trans wide (Nat.le_trans below low)) word

/-- A read answers with the content exactly if reads do not fail. -/
theorem fst_serve_eq_content_iff {α : Type} {content answer : α} :
    (image.serve content).1 = .content answer ↔ image.outage = none ∧ content = answer := by
  unfold serve
  cases image.outage with
  | none => simp
  | some kind => cases kind <;> simp

/-- What a read of units answers with that does not fail: as many cells as it asks for of all that
the image holds from the start on, and nothing if the start is no word. -/
def answer (image : Image) (unit : Nat) (marking : Bool) (start : Address) (units : Nat) :
    List Cell :=
  if start.value < Word.bound then
    (image.cellsFrom (max unit 1) marking start.value).take (units * max unit 1)
  else []

theorem fst_readUnits_eq_content_iff {marking : Bool} {start : Address} {units : Nat}
    {cells : List Cell} :
    (readUnits unit marking start units image).1 = .content cells ↔
      image.outage = none ∧ image.answer unit marking start units = cells := by
  rw [readUnits, fst_serve_eq_content_iff, Address.toWord?, Word.ofNat?, answer]
  by_cases word : start.value < Word.bound
  · simp only [if_pos word, unitsFrom_eq_take]
  · simp only [if_neg word]

/-- Every cell that the image answers with, and every one that is missing in the answer, is the one
that belongs to its offset. -/
theorem cell_readUnits (pos : 0 < unit) {marking : Bool} {start : Address} {units : Nat}
    (words : image.InWords unit) {answer : List Cell}
    (answered : (readUnits unit marking start units image).1 = .content answer) {p : Nat}
    (asked : p < units * unit) :
    answer[p]?.getD .placeholder =
      image.cellAt marking (((start.value : Int) - image.base) * unit + p) := by
  have single : max unit 1 = unit := Nat.max_eq_left pos
  obtain ⟨-, rfl⟩ := fst_readUnits_eq_content_iff.mp answered
  rw [Image.answer, single]
  split
  next => rw [List.getElem?_take_of_lt asked, cell_cellsFrom]
  next wide =>
      rw [cellAt_of_bound_le pos words (Nat.le_of_not_lt wide)]
      rfl

end Image

end MemoryPane
