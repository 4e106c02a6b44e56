import MemoryPane.Chunks

/-!
The pieces of a cut list one by one: which elements piece `i` holds, how many pieces there are, and
that pieces of exactly one size lose nothing when the size divides the length.
-/

namespace MemoryPane

variable {α : Type _} {size : Nat}

/-- Piece `i` holds the elements from position `i * size` on. -/
theorem getElem?_chunks (pos : 0 < size) (xs : List α) (i : Nat) :
    (chunks size xs)[i]? =
      if i * size < xs.length then some ((xs.drop (i * size)).take size) else none := by
  fun_induction chunks size xs generalizing i with
  | case1 xs empty =>
      rcases empty with zero | rfl
      · omega
      · simp
  | case2 xs nonempty ih =>
      have filled : 0 < xs.length := List.length_pos_iff.mpr fun h => nonempty (.inr h)
      cases i with
      | zero => simp [filled]
      | succ i =>
          rw [List.getElem?_cons_succ, ih i, List.length_drop, List.drop_drop, Nat.succ_mul,
            Nat.add_comm size]
          have bound : i * size < xs.length - size ↔ i * size + size < xs.length := by omega
          simp only [bound]

/-- There is a piece for every `size` elements begun. -/
theorem length_chunks (pos : 0 < size) (xs : List α) :
    (chunks size xs).length = (xs.length + size - 1) / size := by
  fun_induction chunks size xs with
  | case1 xs empty =>
      rcases empty with zero | rfl
      · omega
      · rw [List.length_nil, List.length_nil, Nat.zero_add, Nat.div_eq_of_lt (by omega)]
  | case2 xs nonempty ih =>
      have filled : 0 < xs.length := List.length_pos_iff.mpr fun h => nonempty (.inr h)
      rw [List.length_cons, ih, List.length_drop]
      rcases Nat.lt_or_ge xs.length size with short | long
      · have one : xs.length + size - 1 = xs.length - 1 + size := by omega
        rw [one, Nat.add_div_right _ pos, Nat.sub_eq_zero_of_le (Nat.le_of_lt short),
          Nat.div_eq_of_lt (by omega), Nat.div_eq_of_lt (by omega)]
      · rw [← Nat.add_div_right _ pos]
        congr 1
        omega

/-- If the size divides the length, no piece is short. -/
theorem length_of_mem_chunks {xs piece : List α} (dvd : size ∣ xs.length)
    (member : piece ∈ chunks size xs) : piece.length = size := by
  fun_induction chunks size xs with
  | case1 => simp at member
  | case2 xs nonempty ih =>
      have filled : 0 < xs.length := List.length_pos_iff.mpr fun h => nonempty (.inr h)
      have room : size ≤ xs.length := Nat.le_of_dvd filled dvd
      rcases List.mem_cons.mp member with rfl | later
      · rw [List.length_take, Nat.min_eq_left room]
      · refine ih ?_ later
        rw [List.length_drop]
        exact Nat.dvd_sub dvd (Nat.dvd_refl size)

/-- If the size divides the length, nothing is left over. -/
theorem fullChunks_eq_chunks {xs : List α} (dvd : size ∣ xs.length) :
    fullChunks size xs = chunks size xs := by
  rw [fullChunks, List.filter_eq_self]
  intro piece member
  simpa using length_of_mem_chunks dvd member

end MemoryPane
