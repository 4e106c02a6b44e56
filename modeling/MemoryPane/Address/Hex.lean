import MemoryPane.Address

/-!
Addresses as hexadecimal text. An address is written with the fewest digits, in lower case, or in
upper case filled up with zeros to a width; it is read from digits of either case, with an optional
marker `0x`, an optional plus sign, and underscores between or after the digits.
-/

namespace MemoryPane.Address

/-! ## Writing -/

/-- The fewest hexadecimal digits of the address, in lower case. -/
def digits (a : Address) : List Char :=
  Nat.toDigits 16 a.value

/-- The fewest hexadecimal digits of the address, in upper case. -/
def upperDigits (a : Address) : List Char :=
  a.digits.map Char.toUpper

/-- Lower-case digits without marker or fill. -/
def toHex (a : Address) : String :=
  String.ofList a.digits

def hexLength (a : Address) : Nat :=
  a.digits.length

/-- Upper-case digits, with zeros in front up to `width` characters. -/
def toPaddedHex (a : Address) (width : Nat) : String :=
  String.ofList (List.leftpad width '0' a.upperDigits)

/-- The address as titles show it: marked, in upper case. -/
def display (a : Address) : String :=
  String.ofList ('0' :: 'x' :: a.upperDigits)

/-- The address as diagnostics show it: marked, in lower case. -/
def describe (a : Address) : String :=
  String.ofList ('0' :: 'x' :: a.digits)

/-- Bytes assumed for an address whose size nobody declares: eight if it has more than eight
digits, and four otherwise. -/
def inferredSize (a : Address) : Nat :=
  if a.hexLength > 8 then 8 else 4

/-! ## Reading -/

def digitValue? (c : Char) : Option Nat :=
  if '0' ≤ c ∧ c ≤ '9' then some (c.toNat - '0'.toNat)
  else if 'a' ≤ c ∧ c ≤ 'f' then some (c.toNat - 'a'.toNat + 10)
  else if 'A' ≤ c ∧ c ≤ 'F' then some (c.toNat - 'A'.toNat + 10)
  else none

/-- Reads on after the digits worth `sum`; underscores count for nothing. -/
def readTail? (sum : Nat) : List Char → Option Nat
  | [] => some sum
  | c :: rest =>
    if c = '_' then readTail? sum rest
    else match digitValue? c with
      | some d => readTail? (16 * sum + d) rest
      | none => none

/-- Reads a number that starts with a digit. -/
def readNumber? : List Char → Option Nat
  | [] => none
  | c :: rest => match digitValue? c with
    | some d => readTail? d rest
    | none => none

/-- Removes one marker `0x` or `0X` in front. -/
def dropMarker : List Char → List Char
  | '0' :: 'x' :: rest => rest
  | '0' :: 'X' :: rest => rest
  | text => text

def dropPlus : List Char → List Char
  | '+' :: rest => rest
  | text => text

/-- Reads an address: a marker, then a plus sign, both optional, then a digit followed by digits and
underscores. Any other text is refused. -/
def ofHex? (text : String) : Option Address :=
  (readNumber? (dropPlus (dropMarker text.toList))).map Address.mk

end MemoryPane.Address
