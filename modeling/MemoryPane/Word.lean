/-!
Counts and sizes that a target reports are 64-bit words. The library computes with natural
numbers and names the few places where the width shows: whether a number is a word, a sum that
stays at the largest word, and a product that is refused when it is none.
-/

namespace MemoryPane.Word

/-- The first number that is not a word. -/
def bound : Nat := Nat.pow 2 64

def top : Nat := bound - 1

/-- The number itself, if it is a word. -/
def ofNat? (n : Nat) : Option Nat :=
  if n < bound then some n else none

/-- The sum, or the largest word where the sum is none. -/
def addCapped (a b : Nat) : Nat :=
  min (a + b) top

/-- The product, if it is a word. -/
def mul? (a b : Nat) : Option Nat :=
  ofNat? (a * b)

/-- Below the largest word the cap does not show. -/
theorem addCapped_of_lt {a b : Nat} (small : addCapped a b < top) : addCapped a b = a + b := by
  unfold addCapped at small ⊢
  omega

end MemoryPane.Word
