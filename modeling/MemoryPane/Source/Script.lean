import MemoryPane.Address.Hex
import MemoryPane.Source

/-!
Scripted blocks answer reads from a list of prepared replies, whatever they are asked for, and write
down what they were asked. When the list is used up they answer with no bytes.
-/

namespace MemoryPane

/-- What a block was asked for. -/
inductive Request where
  | all
  | range (start : Address) (units : Nat)
  deriving DecidableEq

def Request.describe : Request → String
  | all => "all"
  | range start units => start.toHex ++ "+" ++ toString units

structure Script where
  base : Address
  /-- The length that the block claims when read as a whole. -/
  length : Nat := 0
  replies : List (Reply (List Cell))
  status : Status := .suspended
  /-- The requests so far, newest first. -/
  log : List Request := []
  deriving DecidableEq

namespace Script

/-- Answers a request with the next reply. -/
def answer (script : Script) (request : Request) : Reply (List Cell) × Script :=
  (script.replies.headD (.content []),
    { script with replies := script.replies.tail, log := request :: script.log })

/-- The script as a block read as a whole: only the values of the replies count. -/
def wholeBlock : WholeBlock Script where
  start script := ⟨script.base.value % Word.bound⟩
  length := Script.length
  read script :=
    let (reply, script) := script.answer .all
    (reply.map (List.map Cell.value), script)

/-- The script as a block read at any address. -/
def rangedBlock (addressSize unit : Nat) (marksChanges : Bool) : RangedBlock Script where
  base := Script.base
  addressSize
  unit
  marksChanges
  read start units script := script.answer (.range start units)

end Script

end MemoryPane
