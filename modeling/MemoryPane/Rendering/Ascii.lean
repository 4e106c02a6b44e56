import MemoryPane.Rendering

/-!
The ASCII rendering: one character for each byte.
-/

namespace MemoryPane.Rendering

/-- The character for a byte of content: itself if it is printable ASCII, and a dot otherwise. -/
def glyph (value : UInt8) : Char :=
  if 0x20 ≤ value ∧ value ≤ 0x7e then Char.ofNat value.toNat else '.'

/-- The character for a byte that is no content: the first of the filler, or a question mark. -/
def unknownGlyph (line : Line) : Char :=
  line.filler.toList.headD '?'

def asciiText (line : Line) (cell : Cell) : List Char :=
  [if cell.valid then glyph cell.value else unknownGlyph line]

def ascii (id label : String) (columnSize : Nat) : Rendering :=
  grouped asciiText id label columnSize

end MemoryPane.Rendering
