import MemoryPane.Pane
import MemoryPane.Proofs.Address.Hex

/-!
Every text of an address can be read back, so that no other address has it, in whatever form that
is written. `Address.WrittenAs` lists the forms, and `Address.Legible` says besides how long the
texts are: a plain one takes as few digits as the number needs, and a padded one as many characters
as it is told to.
-/

namespace MemoryPane.Address

/-- The text is the address in one of the forms in which addresses are written. -/
inductive WrittenAs (a : Address) : String → Prop
  | plain : WrittenAs a a.toHex
  | padded (width : Nat) : WrittenAs a (a.toPaddedHex width)
  | displayed : WrittenAs a a.display
  | described : WrittenAs a a.describe
  /-- As a pane writes it, whatever size its source declares. -/
  | inPane {σ η : Type} (pane : Pane σ η) : WrittenAs a (pane.addressText a)

/-- Whatever is written of an address is read as the address. -/
theorem WrittenAs.ofHex?_eq {a : Address} {text : String} (written : a.WrittenAs text) :
    ofHex? text = some a := by
  cases written with
  | plain => exact a.ofHex?_toHex
  | padded width => exact a.ofHex?_toPaddedHex width
  | displayed => exact a.ofHex?_display
  | described => exact a.ofHex?_describe
  | inPane pane => exact a.ofHex?_toPaddedHex _

/-! ## How long a text is -/

/-- The digits fit in a width exactly if the number lies below that power of the base. -/
theorem hexLength_le_iff {width : Nat} (pos : 0 < width) (a : Address) :
    a.hexLength ≤ width ↔ a.value < 16 ^ width :=
  Nat.length_toDigits_le_iff (by decide) pos

theorem length_toPaddedHex (a : Address) (width : Nat) :
    (a.toPaddedHex width).length = max a.hexLength width := by
  rw [toPaddedHex, String.length_ofList, List.leftpad, List.length_append, List.length_replicate,
    upperDigits, List.length_map, hexLength]
  omega

/-- Of an address whose size nobody declares, eight characters are shown if it has no more digits,
and sixteen if it has more than eight, or as many as there are digits. -/
theorem length_addressText_of_undeclared {σ η : Type} {pane : Pane σ η}
    (undeclared : pane.source.addressSize = 0) (a : Address) :
    (pane.addressText a).length =
      if a.hexLength ≤ 8 then 8 else max a.hexLength 16 := by
  rw [Pane.addressText, length_toPaddedHex, Pane.addressSize, if_pos undeclared, inferredSize]
  split
  next wide => rw [if_neg (by omega)]
  next narrow =>
      rw [if_pos (by omega)]
      omega

/-- What the texts of an address are like. -/
structure Legible (a : Address) : Prop where
  read : ∀ text, a.WrittenAs text → ofHex? text = some a
  /-- No two addresses have a text in common, not even in two different forms. -/
  apart : ∀ b text, a.WrittenAs text → b.WrittenAs text → a = b
  length : a.toHex.length = a.hexLength
  /-- There are no more digits than the number needs. -/
  leading : a.toHex.toList.head? = some '0' ↔ a = zero
  fits_iff : ∀ width, 0 < width → (a.hexLength ≤ width ↔ a.value < 16 ^ width)
  padded : ∀ width, (a.toPaddedHex width).length = max a.hexLength width ∧
    ∀ c ∈ (a.toPaddedHex width).toList, c.isDigit = true ∨ 'A' ≤ c ∧ c ≤ 'F'
  /-- The text in a pane whose source declares no size. -/
  undeclared : ∀ {σ η : Type} (pane : Pane σ η), pane.source.addressSize = 0 →
    ((pane.addressText a).length = 8 ↔ a.value < 2 ^ 32) ∧
      ((pane.addressText a).length = 16 ↔ 2 ^ 32 ≤ a.value ∧ a.value < 2 ^ 64) ∧
      (2 ^ 64 ≤ a.value → (pane.addressText a).length = a.hexLength)

theorem legible (a : Address) : a.Legible where
  read := fun _ written => written.ofHex?_eq
  apart := by
    intro b text written also
    have read := written.ofHex?_eq
    rw [also.ofHex?_eq] at read
    exact (Option.some.inj read).symm
  length := String.length_ofList
  leading := by
    rw [toHex, String.toList_ofList, digits, head?_toDigits_eq_zero_iff, Address.ext_iff]
    rfl
  fits_iff := fun _ pos => a.hexLength_le_iff pos
  padded := by
    intro width
    refine ⟨a.length_toPaddedHex width, fun c member => ?_⟩
    have table : ∀ d : Fin 16, (upperDigit d.val).isDigit = true ∨
        'A' ≤ upperDigit d.val ∧ upperDigit d.val ≤ 'F' := by decide
    rw [toPaddedHex, String.toList_ofList] at member
    obtain ⟨d, small, rfl⟩ := exists_of_mem_digitRow (mem_digitRow_of_mem_leftpad member)
    exact table ⟨d, small⟩
  undeclared := by
    intro σ η pane undeclared
    have narrow : a.hexLength ≤ 8 ↔ a.value < 2 ^ 32 := a.hexLength_le_iff (by decide)
    have wide : a.hexLength ≤ 16 ↔ a.value < 2 ^ 64 := a.hexLength_le_iff (by decide)
    rw [length_addressText_of_undeclared undeclared]
    split <;> omega

end MemoryPane.Address
