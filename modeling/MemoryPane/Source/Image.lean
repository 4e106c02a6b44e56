import MemoryPane.Source

/-!
Memory images: the memory of a simulated target, held as bytes from a base address on. An image can
be written to, can be told to fail reads, and can remember its bytes as a baseline, against which a
block over the image marks changes. Every read is counted, whether it fails or not.
-/

namespace MemoryPane

inductive Outage where
  | failing (reason : String)
  | silent
  deriving DecidableEq

structure Image where
  base : Nat
  bytes : Array UInt8
  status : Status := .suspended
  /-- How reads fail at present, if they do. -/
  outage : Option Outage := none
  /-- The bytes against which changes are marked. -/
  baseline : Option (Array UInt8) := none
  reads : Nat := 0
  deriving DecidableEq

namespace Image

/-! ## Changing an image -/

/-- Writes `data` over `bytes` from `offset` on, as far as there are bytes. -/
def overwrite (bytes : Array UInt8) (offset : Nat) : List UInt8 → Array UInt8
  | [] => bytes
  | value :: data =>
    if h : offset < bytes.size then overwrite (bytes.set offset value h) (offset + 1) data
    else bytes

/-- Writes `data` at an address. What would lie beyond the end is ignored, and a write that starts
below the base is ignored as a whole. -/
def write (image : Image) (address : Nat) (data : List UInt8) : Image :=
  if address < image.base then image
  else { image with bytes := overwrite image.bytes (address - image.base) data }

def takeBaseline (image : Image) : Image := { image with baseline := some image.bytes }

@[simp] theorem size_overwrite (bytes : Array UInt8) (offset : Nat) (data : List UInt8) :
    (overwrite bytes offset data).size = bytes.size := by
  fun_induction overwrite bytes offset data <;> simp_all

/-! ## Reading an image -/

variable {α : Type}

/-- Counts a read and answers it with `content`, unless reads fail. -/
def serve (image : Image) (content : α) : Reply α × Image :=
  let reply := match image.outage with
    | none => .content content
    | some (.failing reason) => .failed reason
    | some .silent => .nothing
  (reply, { image with reads := image.reads + 1 })

/-- The byte at an offset as a cell; if `marking`, with its change since the baseline. -/
def cell (image : Image) (marking : Bool) (offset : Nat) (value : UInt8) : Cell :=
  match if marking then image.baseline.bind (·[offset]?) else none with
  | some before => (Cell.ofByte value).setChanged (before != value)
  | none => Cell.ofByte value

/-- The cells of the unit at an address: placeholders below the base, and fewer than `unit` at the
end of the image. -/
def unitCells (image : Image) (unit : Nat) (marking : Bool) (address : Nat) : List Cell :=
  if address < image.base then List.replicate unit .placeholder
  else
    let first := (address - image.base) * unit
    (image.bytes.extract first (first + unit)).toList.mapIdx fun i value =>
      image.cell marking (first + i) value

/-- The cells of `units` units from an address on, as far as the image goes. -/
def unitsFrom (image : Image) (unit : Nat) (marking : Bool) (address : Nat) : Nat → List Cell
  | 0 => []
  | units + 1 =>
    let cells := image.unitCells unit marking address
    if cells.length < unit then cells
    else cells ++ image.unitsFrom unit marking (address + 1) units

/-- Reads units of `unit` bytes, or of one byte if `unit` is zero. Addresses beyond the machine
words hold nothing. -/
def readUnits (unit : Nat) (marking : Bool) (start : Address) (units : Nat) (image : Image) :
    Reply (List Cell) × Image :=
  image.serve <| match start.toWord? with
    | some address => image.unitsFrom (max unit 1) marking address units
    | none => []

def wholeBlock : WholeBlock Image where
  start image := ⟨image.base⟩
  length image := image.bytes.size
  read image := image.serve image.bytes.toList

/-- The image as a block to be read at any address. -/
def rangedBlock (addressSize unit : Nat) (marksChanges : Bool) : RangedBlock Image where
  base image := ⟨image.base⟩
  addressSize
  unit
  marksChanges
  read := readUnits unit marksChanges

/-- A source over the image, which tells the state of the target. -/
def source (block : BlockNumber) (target : TargetNumber) (feed : Feed Image) : Source Image where
  block
  target
  status := Image.status
  feed

end Image

end MemoryPane
