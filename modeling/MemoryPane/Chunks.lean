/-!
A list cut into pieces of one size. `chunks` keeps a short last piece, and `fullChunks` drops it.
Joining the pieces of `chunks` gives the list back.
-/

namespace MemoryPane

variable {α : Type _}

/-- The list cut into pieces of `size` elements, the last of which may be shorter. There are no
pieces of size zero. -/
def chunks (size : Nat) (xs : List α) : List (List α) :=
  if _h : size = 0 ∨ xs = [] then [] else xs.take size :: chunks size (xs.drop size)
termination_by xs.length
decreasing_by
  have := List.length_pos_iff.mpr (fun h => _h (.inr h))
  simp only [List.length_drop]
  omega

/-- The list cut into pieces of exactly `size` elements; what is left over is dropped. -/
def fullChunks (size : Nat) (xs : List α) : List (List α) :=
  (chunks size xs).filter fun piece => piece.length == size

/-- Nothing is lost or moved by cutting. -/
theorem flatten_chunks {size : Nat} (pos : 0 < size) (xs : List α) :
    (chunks size xs).flatten = xs := by
  fun_induction chunks size xs with
  | case1 xs h =>
    rcases h with h | h
    · omega
    · simp [h]
  | case2 xs h ih => simp [ih]

end MemoryPane
