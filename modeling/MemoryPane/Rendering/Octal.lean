import MemoryPane.Rendering

/-!
The octal rendering: three octal digits for every byte, content or not, each in a column of its own.
-/

namespace MemoryPane.Rendering

def octalText (value : UInt8) : List Char :=
  List.leftpad 3 '0' (Nat.toDigits 8 value.toNat)

def octal : Rendering where
  id := "oct"
  label := "Octal"
  columnSize := 1
  columns line := line.values.map fun value => String.ofList (octalText value)

end MemoryPane.Rendering
