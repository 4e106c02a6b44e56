import MemoryPane.Rendering

/-!
The hexadecimal rendering: two upper-case digits for a byte of content, and the line's filler for
any other.
-/

namespace MemoryPane.Rendering

/-- The two upper-case hexadecimal digits of a byte. -/
def hexPair (value : UInt8) : List Char :=
  (List.leftpad 2 '0' (Nat.toDigits 16 value.toNat)).map Char.toUpper

def hexText (line : Line) (cell : Cell) : List Char :=
  if cell.valid then hexPair cell.value else line.filler.toList

def hex (id label : String) (columnSize : Nat) : Rendering :=
  grouped hexText id label columnSize

end MemoryPane.Rendering
