import MemoryPane.Word

/-!
Addresses of target memory. A debug target may have an address space wider than a machine word, so
an address is a natural number of any magnitude; only distances and conversions are bounded to
words. Arithmetic is what line buffering needs: stepping by units, aligning down, and the distance
between two addresses.
-/

namespace MemoryPane

/-- An address of target memory, counted in addressable units. -/
@[ext]
structure Address where
  value : Nat
  deriving DecidableEq

namespace Address

def zero : Address := ⟨0⟩

instance : Inhabited Address := ⟨zero⟩

instance : LE Address := ⟨fun a b => a.value ≤ b.value⟩

instance : LT Address := ⟨fun a b => a.value < b.value⟩

instance (a b : Address) : Decidable (a ≤ b) :=
  inferInstanceAs (Decidable (a.value ≤ b.value))

instance (a b : Address) : Decidable (a < b) :=
  inferInstanceAs (Decidable (a.value < b.value))

theorem le_def {a b : Address} : a ≤ b ↔ a.value ≤ b.value := Iff.rfl

theorem lt_def {a b : Address} : a < b ↔ a.value < b.value := Iff.rfl

/-- How far the address lies above the nearest multiple of `boundary` below it. Boundaries 0 and 1
align everything. -/
def misalignment (a : Address) (boundary : Nat) : Nat :=
  if boundary ≤ 1 then 0 else a.value % boundary

/-- The nearest multiple of `boundary` at or below the address. -/
def alignDown (a : Address) (boundary : Nat) : Address :=
  ⟨a.value - a.misalignment boundary⟩

/-- The address `units` above this one. -/
def offset (a : Address) (units : Nat) : Address :=
  ⟨a.value + units⟩

/-- The address `units` below this one, or the lowest address where there is none. -/
def retreat (a : Address) (units : Nat) : Address :=
  ⟨a.value - units⟩

/-- Units from this address up to `b`: none if `b` lies below, or if the distance is no word. -/
def distanceTo? (a b : Address) : Option Nat :=
  if b < a then none else Word.ofNat? (b.value - a.value)

/-- The address divided by `divisor`, rounded down; zero for the divisor zero. -/
def divide (a : Address) (divisor : Nat) : Address :=
  ⟨a.value / divisor⟩

/-- The address as a word, if it is one. -/
def toWord? (a : Address) : Option Nat :=
  Word.ofNat? a.value

def isZero (a : Address) : Bool :=
  a.value == 0

@[simp] theorem value_offset (a : Address) (units : Nat) :
    (a.offset units).value = a.value + units := rfl

@[simp] theorem value_retreat (a : Address) (units : Nat) :
    (a.retreat units).value = a.value - units := rfl

theorem misalignment_le (a : Address) (boundary : Nat) : a.misalignment boundary ≤ a.value := by
  unfold misalignment; split
  · exact Nat.zero_le _
  · exact Nat.mod_le _ _

theorem misalignment_eq_mod {boundary : Nat} (pos : 0 < boundary) (a : Address) :
    a.misalignment boundary = a.value % boundary := by
  unfold misalignment
  split
  next small =>
      obtain rfl : boundary = 1 := by omega
      rw [Nat.mod_one]
  next => rfl

theorem misalignment_lt {boundary : Nat} (pos : 0 < boundary) (a : Address) :
    a.misalignment boundary < boundary := by
  unfold misalignment; split
  · exact pos
  · exact Nat.mod_lt _ pos

/-- Aligning down and adding the misalignment gives the address back. -/
theorem value_alignDown_add_misalignment (a : Address) (boundary : Nat) :
    (a.alignDown boundary).value + a.misalignment boundary = a.value :=
  Nat.sub_add_cancel (a.misalignment_le boundary)

theorem alignDown_eq {boundary : Nat} (pos : 0 < boundary) (a : Address) :
    a.alignDown boundary = ⟨a.value / boundary * boundary⟩ := by
  have parts := Nat.mod_add_div a.value boundary
  rw [alignDown, misalignment_eq_mod pos, Nat.mul_comm]
  congr 1
  omega

theorem value_sub_value_alignDown {boundary : Nat} (pos : 0 < boundary) (a : Address) :
    a.value - (a.alignDown boundary).value = a.value % boundary := by
  have parts := a.value_alignDown_add_misalignment boundary
  rw [misalignment_eq_mod pos] at parts
  omega

theorem distanceTo?_of_le {a b : Address} (le : a ≤ b) :
    a.distanceTo? b = Word.ofNat? (b.value - a.value) :=
  if_neg (Nat.not_lt.mpr le)

theorem distanceTo?_of_lt {a b : Address} (lt : b < a) : a.distanceTo? b = none :=
  if_pos lt

end Address

end MemoryPane
