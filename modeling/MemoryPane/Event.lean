import MemoryPane.Target

/-!
What a debugger announces about memory blocks and their targets.
-/

namespace MemoryPane

/-- An announcement about a block or a target. -/
inductive Event where
  | contentChanged (block : BlockNumber)
  /-- Something else about a block changed, such as its name. -/
  | stateChanged (block : BlockNumber)
  /-- A target stopped, so that the content of all its blocks may have changed. -/
  | suspended (target : TargetNumber)
  /-- A block must no longer be read. -/
  | disposed (block : BlockNumber)
  deriving DecidableEq

namespace Event

/-- The block that the event is about, if it is about a single one. -/
def block? : Event → Option BlockNumber
  | contentChanged block | stateChanged block | disposed block => some block
  | suspended _ => none

def isDisposal : Event → Bool
  | disposed _ => true
  | _ => false

end Event

end MemoryPane
