import MemoryPane.Line

/-!
A snapshot holds the lines that were shown at the last refresh, each found under its own address.
Fresh lines are compared with them.
-/

namespace MemoryPane

structure Snapshot where
  lines : List Line := []
  deriving DecidableEq

namespace Snapshot

instance : EmptyCollection Snapshot := ⟨{}⟩

def size (snapshot : Snapshot) : Nat := snapshot.lines.length

/-- The line held at an address. -/
def find? (snapshot : Snapshot) (address : Address) : Option Line :=
  snapshot.lines.find? fun line => line.address == address

/-- The snapshot with no byte changed; what was known stays known. -/
def settle (snapshot : Snapshot) : Snapshot :=
  ⟨snapshot.lines.map Line.settle⟩

def ofWindow (window : List Line) : Snapshot := ⟨window⟩

theorem mem_of_find? {snapshot : Snapshot} {address : Address} {line : Line}
    (h : snapshot.find? address = some line) : line ∈ snapshot.lines :=
  List.mem_of_find?_eq_some h

end Snapshot

end MemoryPane
