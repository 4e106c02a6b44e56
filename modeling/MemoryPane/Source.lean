import MemoryPane.Address
import MemoryPane.Cell
import MemoryPane.Failure
import MemoryPane.Target

/-!
A source is where the bytes of a memory block come from. It lives in an environment `σ`, which is
all that may change behind a view's back: the content of memory, the state of the target, failures
still to come. A read answers with a reply and leaves an environment; what a source declares about
itself once and for all does not depend on the environment.
-/

namespace MemoryPane

inductive Reply (α : Type) where
  | content (value : α)
  /-- There is unexpectedly nothing to answer with. -/
  | nothing
  | failed (reason : String)
  deriving DecidableEq

namespace Reply

variable {α β : Type}

def map (f : α → β) : Reply α → Reply β
  | content value => content (f value)
  | nothing => nothing
  | failed reason => failed reason

/-- The failure that the reply amounts to. -/
def failure? : Reply α → Option Failure
  | content _ => none
  | nothing => some .noContent
  | failed reason => some (.readFailed reason)

/-- The content, or `default` in a reply without content. -/
def getD (reply : Reply α) (default : α) : α :=
  match reply with
  | content value => value
  | _ => default

end Reply

/-- A fixed block that answers every read with all of its bytes. -/
structure WholeBlock (σ : Type) where
  start : σ → Address
  /-- Number of bytes that the block says it has. -/
  length : σ → Nat
  read : σ → Reply (List UInt8) × σ

/-- A block that can be read at any address. -/
structure RangedBlock (σ : Type) where
  /-- The address that the block was made for. -/
  base : σ → Address
  /-- Bytes in an address, or zero if the block does not know. -/
  addressSize : Nat := 0
  /-- Bytes in one addressable unit. -/
  unit : Nat := 1
  /-- The block itself sets the change states of the cells it answers with. -/
  marksChanges : Bool := false
  /-- Reads a number of units from an address on; the answer may be shorter. -/
  read : Address → Nat → σ → Reply (List Cell) × σ

inductive Feed (σ : Type) where
  | whole (block : WholeBlock σ)
  | ranged (block : RangedBlock σ)

/-- A block with the identities by which events name it. -/
structure Source (σ : Type) where
  block : BlockNumber
  target : TargetNumber
  /-- State of the target that the block belongs to. -/
  status : σ → Status := fun _ => .running
  feed : Feed σ

namespace Source

variable {σ τ : Type}

def isRanged (source : Source σ) : Bool :=
  match source.feed with
  | .whole _ => false
  | .ranged _ => true

/-- Bytes in an address as the source declares it, or zero. -/
def addressSize (source : Source σ) : Nat :=
  match source.feed with
  | .whole _ => 0
  | .ranged block => block.addressSize

def unit? (source : Source σ) : Option Nat :=
  match source.feed with
  | .whole _ => none
  | .ranged block => some block.unit

/-- The source itself sets the change states of its cells. -/
def marksChanges (source : Source σ) : Bool :=
  match source.feed with
  | .whole _ => false
  | .ranged block => block.marksChanges

def base (source : Source σ) (env : σ) : Address :=
  match source.feed with
  | .whole block => block.start env
  | .ranged block => block.base env

/-- The source as diagnostics show it. -/
def describe (source : Source σ) : String :=
  "MemorySource \x7b block: BlockId(" ++ toString source.block.value ++
    "), target: TargetId(" ++ toString source.target.value ++
    "), kind: " ++ (if source.isRanged then "Extended" else "Simple") ++ " \x7d"

end Source

/-! ## Sources inside a larger environment -/

/-- Where the environment of a source is found in a larger one, and how it is put back. -/
structure Focus (τ σ : Type) where
  get : τ → σ
  put : σ → τ → τ

namespace Focus

variable {σ τ : Type} {α : Type}

/-- A read in the smaller environment as a read in the larger one. -/
def lift (focus : Focus τ σ) (read : σ → Reply α × σ) (env : τ) : Reply α × τ :=
  let (reply, inner) := read (focus.get env)
  (reply, focus.put inner env)

/-- A block of the smaller environment as one of the larger. -/
def feed (focus : Focus τ σ) : Feed σ → Feed τ
  | .whole block => .whole {
      start := block.start ∘ focus.get
      length := block.length ∘ focus.get
      read := focus.lift block.read }
  | .ranged block => .ranged {
      base := block.base ∘ focus.get
      addressSize := block.addressSize
      unit := block.unit
      marksChanges := block.marksChanges
      read := fun start units => focus.lift (block.read start units) }

/-- A source of the smaller environment as one of the larger. -/
def source (focus : Focus τ σ) (inner : Source σ) : Source τ where
  block := inner.block
  target := inner.target
  status := inner.status ∘ focus.get
  feed := focus.feed inner.feed

end Focus

end MemoryPane
