import MemoryPane.Failure
import MemoryPane.Word

/-!
The layout of a view: how many bytes a line shows, how many bytes one address stands for, and where
lines may start. `Layout.check` accepts exactly the layouts that are `Layout.Usable`.
-/

namespace MemoryPane

structure Layout where
  width : Nat := 16
  /-- Bytes in one addressable unit. -/
  unit : Nat := 1
  /-- Windows start at multiples of this address. -/
  alignment : Nat := 16
  /-- Shown in place of each byte that is no content. -/
  filler : String := "??"
  deriving DecidableEq

namespace Layout

/-- The most bytes a window may hold: 64 MiB. -/
def windowLimit : Nat := 64 * 1024 * 1024

def lineUnits (layout : Layout) : Nat := layout.width / max layout.unit 1

/-- Lines hold whole units, at least one, and windows can be aligned. -/
structure Usable (layout : Layout) : Prop where
  width_pos : 0 < layout.width
  unit_pos : 0 < layout.unit
  unit_dvd_width : layout.unit ∣ layout.width
  alignment_pos : 0 < layout.alignment

/-- Refuses a layout that cannot be used, with the first fault found. -/
def check (layout : Layout) : Except Failure Unit :=
  if layout.width = 0 then .error (.badConfig .emptyLine)
  else if layout.unit = 0 then .error (.badConfig .emptyUnit)
  else if layout.width % layout.unit ≠ 0 then
    .error (.badConfig (.unevenLine layout.width layout.unit))
  else if layout.alignment = 0 then .error (.badConfig .emptyAlignment)
  else .ok ()

theorem check_eq_ok_iff {layout : Layout} : layout.check = .ok () ↔ layout.Usable := by
  constructor
  · intro h
    unfold check at h
    split at h <;> try contradiction
    split at h <;> try contradiction
    split at h <;> try contradiction
    split at h <;> try contradiction
    exact ⟨by omega, by omega, Nat.dvd_of_mod_eq_zero (by omega), by omega⟩
  · rintro ⟨width_pos, unit_pos, dvd, alignment_pos⟩
    have := Nat.mod_eq_zero_of_dvd dvd
    unfold check
    rw [if_neg (by omega), if_neg (by omega), if_neg (by omega), if_neg (by omega)]

/-- How much a window holds. -/
structure Extent where
  bytes : Nat
  units : Nat
  deriving DecidableEq

/-- What a window of `lines` lines holds, if both counts are words and the bytes keep to the
limit. -/
def extent? (layout : Layout) (lines : Nat) : Option Extent :=
  match Word.mul? layout.width lines, Word.mul? layout.lineUnits lines with
  | some bytes, some units => if bytes ≤ windowLimit then some ⟨bytes, units⟩ else none
  | _, _ => none

end Layout

end MemoryPane
