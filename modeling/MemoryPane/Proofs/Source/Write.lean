import MemoryPane.Source.Image

/-!
What a write leaves of an image. Data written over bytes from an offset on takes their places as far
as there are any, and no other place (`getElem?_overwrite`).

`Overlays` says what a write at an address is for: the data stands wherever the image has one of its
addresses, and all else is as it was. A write that begins at the base or above it does this, however
much of the data lies beyond the end. One that begins below the base is ignored as a whole, also
where the data reaches into the image, so that it does this only if the image had that part of the
data before (`overlays_write_iff`).
-/

namespace MemoryPane.Image

/-- Byte `i` of what was written over stands `i - offset` bytes into the data. -/
theorem getElem?_overwrite (bytes : Array UInt8) (offset : Nat) (data : List UInt8) (i : Nat) :
    (overwrite bytes offset data)[i]? =
      if offset ≤ i ∧ i < offset + data.length ∧ i < bytes.size then data[i - offset]?
      else bytes[i]? := by
  fun_induction overwrite bytes offset data with
  | case1 bytes offset => rw [if_neg (by simp only [List.length_nil]; omega)]
  | case2 bytes offset value data inside ih =>
      rw [ih, Array.size_set, List.length_cons]
      rcases Nat.lt_trichotomy i offset with before | rfl | behind
      · rw [if_neg (by omega), if_neg (by omega), Array.getElem?_set_ne inside (by omega)]
      · rw [if_neg (by omega), if_pos (by omega), Array.getElem?_set_self inside, Nat.sub_self]
        rfl
      · have next : i - offset = i - (offset + 1) + 1 := by omega
        rw [Array.getElem?_set_ne inside (by omega), next, List.getElem?_cons_succ]
        congr 1
        apply propext
        omega
  | case3 bytes offset value data beyond => rw [if_neg (by omega)]

/-- The second image is the first with `data` laid over it from an address on. -/
structure Overlays (image : Image) (address : Nat) (data : List UInt8) (next : Image) : Prop where
  base_eq : next.base = image.base
  size_eq : next.bytes.size = image.bytes.size
  baseline_eq : next.baseline = image.baseline
  written : ∀ i < image.bytes.size, address ≤ image.base + i →
    image.base + i < address + data.length → next.bytes[i]? = data[image.base + i - address]?
  kept : ∀ i, ¬ (address ≤ image.base + i ∧ image.base + i < address + data.length) →
    next.bytes[i]? = image.bytes[i]?

variable {image : Image} {address : Nat}

theorem write_of_lt (below : address < image.base) (data : List UInt8) :
    image.write address data = image :=
  if_pos below

theorem write_of_le (inside : image.base ≤ address) (data : List UInt8) :
    image.write address data =
      { image with bytes := overwrite image.bytes (address - image.base) data } :=
  if_neg (Nat.not_lt.mpr inside)

theorem overlays_write_of_le (inside : image.base ≤ address) (data : List UInt8) :
    image.Overlays address data (image.write address data) := by
  rw [write_of_le inside]
  exact {
    base_eq := rfl
    size_eq := size_overwrite _ _ _
    baseline_eq := rfl
    written := by
      intro i held low high
      have place : i - (address - image.base) = image.base + i - address := by omega
      rw [getElem?_overwrite, if_pos (by omega), place]
    kept := by
      intro i apart
      rw [getElem?_overwrite, if_neg (by omega)] }

/-- An image is laid over by data that it holds already. -/
theorem overlays_self_iff {data : List UInt8} :
    image.Overlays address data image ↔
      ∀ i < image.bytes.size, address ≤ image.base + i →
        image.base + i < address + data.length →
          image.bytes[i]? = data[image.base + i - address]? :=
  ⟨Overlays.written, fun held => ⟨rfl, rfl, rfl, held, fun _ _ => rfl⟩⟩

/-- A write changes nothing of an image but its bytes, whose number stays, and none of them if it
begins below the base. So it lays the data over the image if it begins at the base or above it, and
otherwise only if the image had already as much of the data as reaches into it. -/
theorem overlays_write_iff (image : Image) (address : Nat) (data : List UInt8) :
    (∃ bytes : Array UInt8, bytes.size = image.bytes.size ∧
      image.write address data = { image with bytes }) ∧
    (address < image.base → image.write address data = image) ∧
    (image.Overlays address data (image.write address data) ↔
      image.base ≤ address ∨
        ∀ i < image.bytes.size, image.base + i < address + data.length →
          image.bytes[i]? = data[image.base + i - address]?) := by
  rcases Nat.lt_or_ge address image.base with below | inside
  · rw [write_of_lt below, overlays_self_iff]
    refine ⟨⟨image.bytes, rfl, rfl⟩, fun _ => rfl, ?_⟩
    constructor
    · intro held
      exact .inr fun i inside high => held i inside (by omega) high
    · rintro (above | held)
      · omega
      · exact fun i inside _ high => held i inside high
  · refine ⟨⟨_, size_overwrite _ _ _, write_of_le inside data⟩, by omega, ?_⟩
    exact iff_of_true (overlays_write_of_le inside data) (.inl inside)

/-- Three bytes written from two addresses below an image of zeros on leave it as it is, although
the third one has its place in it. -/
theorem not_forall_overlays_write :
    ¬ ∀ (image : Image) (address : Nat) (data : List UInt8), image.base < Word.bound →
      address < Word.bound → image.Overlays address data (image.write address data) := by
  intro overlays
  let image : Image := { base := 2, bytes := #[0, 0, 0, 0] }
  have laid := overlays image 0 [7, 8, 9] (by decide) (by decide)
  have third : (image.write 0 [7, 8, 9]).bytes[0]? = some 9 :=
    laid.written 0 (by decide) (by decide) (by decide)
  have zero : (image.write 0 [7, 8, 9]).bytes[0]? = some 0 := by
    rw [write_of_lt (by decide)]
    rfl
  rw [zero] at third
  contradiction

end MemoryPane.Image
