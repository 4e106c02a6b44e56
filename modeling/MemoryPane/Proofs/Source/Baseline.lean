import MemoryPane.Proofs.Source.Image

/-!
Changes since a baseline. Whatever happens to an image, its base and its length stay, and its
baseline is what the image held when one was last taken (`Remembers.run`). A block that marks
changes then calls a byte known if there is a baseline and the image has the byte, and changed if
the image had another byte in its place back then (`Remembers.isKnown_cellAt`,
`Remembers.isChanged_cellAt_iff`).
-/

namespace MemoryPane.Image

/-- What can happen to an image. -/
inductive Action where
  | write (address : Nat) (data : List UInt8)
  | takeBaseline
  | setStatus (status : Status)
  | setOutage (outage : Option Outage)
  /-- Someone reads the image. -/
  | read
  deriving DecidableEq

/-- The image after an action. -/
def act (image : Image) : Action → Image
  | .write address data => image.write address data
  | .takeBaseline => image.takeBaseline
  | .setStatus status => { image with status }
  | .setOutage outage => { image with outage }
  | .read => (image.serve ()).2

/-- The baseline of the image holds what `earlier?` held, and is missing if that is. -/
structure Remembers (image : Image) (earlier? : Option Image) : Prop where
  baseline : image.baseline = earlier?.map Image.bytes
  base_eq : ∀ earlier, earlier? = some earlier → earlier.base = image.base
  size_eq : ∀ earlier, earlier? = some earlier → earlier.bytes.size = image.bytes.size

variable {image : Image} {earlier? : Option Image}

theorem base_act (image : Image) (action : Action) : (image.act action).base = image.base := by
  cases action with
  | write address data =>
      simp only [act, write]
      split <;> rfl
  | takeBaseline | setStatus | setOutage | read => rfl

theorem size_act (image : Image) (action : Action) :
    (image.act action).bytes.size = image.bytes.size := by
  cases action with
  | write address data =>
      simp only [act, write]
      split
      · rfl
      · exact size_overwrite _ _ _
  | takeBaseline | setStatus | setOutage | read => rfl

theorem baseline_act (image : Image) (action : Action) :
    (image.act action).baseline =
      if action = .takeBaseline then some image.bytes else image.baseline := by
  cases action with
  | write address data =>
      simp only [act, write]
      split <;> rfl
  | takeBaseline | setStatus | setOutage | read => rfl

/-- Writing touches no byte's address. -/
theorem InWords.act {unit : Nat} (words : image.InWords unit) (action : Action) :
    (image.act action).InWords unit := by
  unfold InWords
  rw [image.base_act, image.size_act]
  exact words

theorem Remembers.act (remembers : image.Remembers earlier?) (action : Action) :
    (image.act action).Remembers (if action = .takeBaseline then some image else earlier?) where
  baseline := by
    rw [baseline_act]
    split
    · rfl
    · exact remembers.baseline
  base_eq := by
    intro earlier held
    rw [base_act]
    split at held
    · rw [← Option.some.inj held]
    · exact remembers.base_eq earlier held
  size_eq := by
    intro earlier held
    rw [size_act]
    split at held
    · rw [← Option.some.inj held]
    · exact remembers.size_eq earlier held

/-! ## Runs of an image -/

/-- The image after a sequence of actions. -/
def run (image : Image) (actions : List Action) : Image := actions.foldl act image

@[simp] theorem run_cons (image : Image) (action : Action) (actions : List Action) :
    image.run (action :: actions) = (image.act action).run actions := rfl

/-- The image as it was when a baseline was last taken of it in a sequence of actions. -/
def taken? (image : Image) : List Action → Option Image
  | [] => none
  | action :: actions =>
    ((image.act action).taken? actions).or (if action = .takeBaseline then some image else none)

theorem Remembers.run (remembers : image.Remembers earlier?) (actions : List Action) :
    (image.run actions).Remembers ((image.taken? actions).or earlier?) := by
  induction actions generalizing image earlier? with
  | nil => exact remembers
  | cons action actions ih =>
      have latest : (if action = .takeBaseline then some image else none).or earlier? =
          if action = .takeBaseline then some image else earlier? := by
        split <;> rfl
      rw [run_cons, taken?, Option.or_assoc, latest]
      exact ih (remembers.act action)

/-! ## Marks against a baseline -/

/-- What a marking block says about the change of a byte of the image. -/
theorem Remembers.change_cell (remembers : image.Remembers earlier?) {k : Nat} {value : UInt8}
    (here : image.bytes[k]? = some value) :
    (image.cell true k value).change =
      earlier?.elim .unknown fun earlier =>
        if earlier.bytes[k]? = some value then .same else .changed := by
  unfold cell
  rw [if_pos rfl, remembers.baseline]
  cases taken : earlier? with
  | none => rfl
  | some earlier =>
      have inside : k < earlier.bytes.size := by
        rw [remembers.size_eq earlier taken]
        exact (Array.getElem?_eq_some_iff.mp here).1
      have before := Array.getElem?_eq_getElem inside
      by_cases same : earlier.bytes[k] = value <;> simp [before, same, Cell.setChanged]

theorem Remembers.isKnown_cellAt (remembers : image.Remembers earlier?) (offset : Int) :
    (image.cellAt true offset).isKnown = (earlier?.isSome && (image.byteAt? offset).isSome) := by
  cases offset with
  | negSucc k => simp [cellAt, byteAt?, Cell.isKnown, Cell.placeholder]
  | ofNat k =>
      show ((image.bytes[k]?.map (image.cell true k)).getD .placeholder).isKnown =
        (earlier?.isSome && image.bytes[k]?.isSome)
      cases here : image.bytes[k]? with
      | none => simp [Cell.isKnown, Cell.placeholder]
      | some value =>
          rw [Option.map_some, Option.getD_some, Cell.isKnown, remembers.change_cell here]
          cases earlier? with
          | none => rfl
          | some earlier => by_cases same : earlier.bytes[k]? = some value <;> simp [same]

theorem Remembers.isChanged_cellAt_iff (remembers : image.Remembers earlier?) (offset : Int) :
    (image.cellAt true offset).isChanged = true ↔
      ∃ earlier, earlier? = some earlier ∧ earlier.byteAt? offset ≠ image.byteAt? offset := by
  cases offset with
  | negSucc k => simp [cellAt, byteAt?, Cell.isChanged, Cell.placeholder]
  | ofNat k =>
      show ((image.bytes[k]?.map (image.cell true k)).getD .placeholder).isChanged = true ↔
        ∃ earlier, earlier? = some earlier ∧ earlier.bytes[k]? ≠ image.bytes[k]?
      cases here : image.bytes[k]? with
      | none =>
          refine iff_of_false (by simp [Cell.isChanged, Cell.placeholder]) ?_
          rintro ⟨earlier, taken, differs⟩
          apply differs
          -- the image had no byte there either
          rw [Array.getElem?_eq_none_iff, remembers.size_eq earlier taken]
          exact Array.getElem?_eq_none_iff.mp here
      | some value =>
          rw [Option.map_some, Option.getD_some, Cell.isChanged, remembers.change_cell here]
          cases earlier? with
          | none => simp
          | some earlier => by_cases same : earlier.bytes[k]? = some value <;> simp [same]

end MemoryPane.Image
