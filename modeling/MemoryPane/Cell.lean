/-!
A cell is one byte of target memory as a view holds it: the value, whether it may be written,
whether it is real content, and what is known about it relative to the byte shown before. The three
states of `Change` leave no room for a byte that changed without that being known. Elsewhere a
cell's state is exchanged as eight mark bits; `ofMarks` and `marks` convert, and four bits without a
meaning of their own travel along unread. The bits and the value together tell everything about a
cell (`ofMarks_marks`).
-/

namespace MemoryPane

/-- What is known about a byte relative to the one shown before. -/
inductive Change where
  /-- Nothing: there was no byte to compare with. -/
  | unknown
  | same
  | changed
  deriving DecidableEq

/-- One byte of target memory with its state. -/
@[ext]
structure Cell where
  value : UInt8
  /-- The byte cannot be written back to the target. -/
  readOnly : Bool
  /-- The byte is real content read from the target. -/
  valid : Bool
  change : Change
  /-- The upper four mark bits. -/
  spare : BitVec 4
  deriving DecidableEq

namespace Cell

/-- Stands where there is no content: zero, read-only, nothing known. -/
def placeholder : Cell := ⟨0, true, false, .unknown, 0⟩

instance : Inhabited Cell := ⟨placeholder⟩

/-- A byte as read from the target. -/
def ofByte (value : UInt8) : Cell := ⟨value, false, true, .unknown, 0⟩

def isKnown (c : Cell) : Bool := c.change != .unknown

/-- The byte is known to have changed. -/
def isChanged (c : Cell) : Bool := c.change == .changed

/-! ## Mark bits -/

/-- A value with mark bits: 1 read-only, 2 valid, 4 changed, 8 known. The changed bit counts only
beside the known bit. -/
def ofMarks (value marks : UInt8) : Cell where
  value
  readOnly := marks.toNat.testBit 0
  valid := marks.toNat.testBit 1
  change :=
    if marks.toNat.testBit 3 then
      if marks.toNat.testBit 2 then .changed else .same
    else .unknown
  spare := BitVec.ofNat 4 (marks.toNat / 16)

def marks (c : Cell) : UInt8 :=
  .ofNat (c.readOnly.toNat + 2 * c.valid.toNat + 4 * c.isChanged.toNat + 8 * c.isKnown.toNat
    + 16 * c.spare.toNat)

/-- The mark bits tell everything about a cell but its value. -/
theorem ofMarks_marks (c : Cell) : ofMarks c.value c.marks = c := by
  obtain ⟨value, readOnly, valid, change, spare⟩ := c
  have zero : ofMarks 0 (marks ⟨0, readOnly, valid, change, spare⟩) =
      ⟨0, readOnly, valid, change, spare⟩ := by
    cases readOnly <;> cases valid <;> cases change <;> revert spare <;> decide
  exact congrArg (fun c : Cell => { c with value }) zero

def withMarks (c : Cell) (marks : UInt8) : Cell := ofMarks c.value marks

/-! ## Change state -/

/-- The byte with its change state set to known. -/
def setChanged (c : Cell) (changed : Bool) : Cell :=
  { c with change := if changed then .changed else .same }

/-- A changed byte counts as known and unchanged from now on. -/
def settle (c : Cell) : Cell :=
  { c with change := if c.change = .changed then .same else c.change }

def forget (c : Cell) : Cell := { c with change := .unknown }

def withReadOnly (c : Cell) (readOnly : Bool) : Cell := { c with readOnly }

/-- What a comparison tells about `c` where `previous` was shown: two valid bytes are compared by
value, and anything else leaves nothing known. -/
def compareWith (c previous : Cell) : Cell :=
  if c.valid && previous.valid then c.setChanged (c.value != previous.value) else c.forget

def inherit (c previous : Cell) : Cell := { c with change := previous.change }

/-- The byte that a cell holds, if it is content. -/
def content? (c : Cell) : Option UInt8 := if c.valid then some c.value else none

/-- The two differ as content: in value, or in being content at all. -/
def contentDiffers (c previous : Cell) : Bool :=
  c.value != previous.value || c.valid != previous.valid

@[simp] theorem content?_placeholder : placeholder.content? = none := rfl

@[simp] theorem isChanged_forget (c : Cell) : c.forget.isChanged = false := rfl

@[simp] theorem isKnown_forget (c : Cell) : c.forget.isKnown = false := rfl

@[simp] theorem isChanged_settle (c : Cell) : c.settle.isChanged = false := by
  cases h : c.change <;> simp [settle, isChanged, h]

@[simp] theorem isKnown_settle (c : Cell) : c.settle.isKnown = c.isKnown := by
  unfold settle isKnown
  cases c.change <;> rfl

/-! ## Diagnostics -/

/-- The names of the marks that are set, and the spare bits as one number. -/
def markNames (c : Cell) : List String :=
  (if c.readOnly then ["READONLY"] else []) ++ (if c.valid then ["VALID"] else []) ++
  (if c.isChanged then ["CHANGED"] else []) ++ (if c.isKnown then ["KNOWN"] else []) ++
  (if c.spare = 0 then [] else
    ["0x" ++ String.ofList (Nat.toDigits 16 (16 * c.spare.toNat))])

/-- The cell as diagnostics show it. -/
def describe (c : Cell) : String :=
  "MemoryByte \x7b value: 0x" ++
    String.ofList (List.leftpad 2 '0' (Nat.toDigits 16 c.value.toNat)) ++
    ", flags: " ++ String.intercalate " | " c.markNames ++ " \x7d"

end Cell

end MemoryPane
