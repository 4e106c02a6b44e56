/-!
Debug targets and the memory blocks in them: the identities by which events name them, and the
states a target goes through.
-/

namespace MemoryPane

@[ext]
structure BlockNumber where
  value : Nat
  deriving DecidableEq

@[ext]
structure TargetNumber where
  value : Nat
  deriving DecidableEq

inductive Status where
  | running
  /-- It is stopped, and its memory is stable. -/
  | suspended
  | disconnected
  | terminated
  deriving DecidableEq

namespace Status

instance : Inhabited Status := ⟨running⟩

/-- The memory of the target can no longer be read. -/
def isGone : Status → Bool
  | disconnected | terminated => true
  | running | suspended => false

def name : Status → String
  | running => "Running"
  | suspended => "Suspended"
  | disconnected => "Disconnected"
  | terminated => "Terminated"

end Status

end MemoryPane
