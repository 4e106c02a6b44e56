import MemoryPane.Address.Hex
import Mathlib.Data.Nat.Digits.Defs

/-!
Hexadecimal text and the numbers it stands for. A digit is worth its place in the row of the sixteen
digits, whatever its case (`worth`), and a numeral is worth the positional value of its digits,
where underscores count for nothing (`valueOf`). Reading adds up the digits from the left, and
accepts just the numerals (`readNumber?_eq_some_iff`); writing takes the digits off the end, and
what it writes is worth the number written (`valueOf_toDigits`). So addresses in hexadecimal can be
read back, whether they are marked, filled up with zeros, or plain.
-/

namespace MemoryPane

/-! ## Digits -/

/-- The sixteen digits, in order of what they are worth. -/
def digitRow : List Char :=
  ['0', '1', '2', '3', '4', '5', '6', '7', '8', '9', 'A', 'B', 'C', 'D', 'E', 'F']

/-- The upper-case hexadecimal digit worth `d`. -/
def upperDigit (d : Nat) : Char := digitRow.getD d '0'

/-- A hexadecimal digit, of either case. -/
def IsHexDigit (c : Char) : Prop := c ∈ digitRow ∨ c ∈ digitRow.map Char.toLower

instance (c : Char) : Decidable (IsHexDigit c) := inferInstanceAs (Decidable (_ ∨ _))

/-- What a digit is worth, whatever its case. -/
def worth (c : Char) : Nat := digitRow.idxOf c.toUpper

theorem toUpper_digitChar {d : Nat} (small : d < 16) : d.digitChar.toUpper = upperDigit d := by
  have table : ∀ d : Fin 16, d.val.digitChar.toUpper = upperDigit d.val := by decide
  exact table ⟨d, small⟩

theorem upperDigit_mem_digitRow {d : Nat} (small : d < 16) : upperDigit d ∈ digitRow := by
  have table : ∀ d : Fin 16, upperDigit d.val ∈ digitRow := by decide
  exact table ⟨d, small⟩

theorem worth_upperDigit {d : Nat} (small : d < 16) : worth (upperDigit d) = d := by
  have table : ∀ d : Fin 16, worth (upperDigit d.val) = d.val := by decide
  exact table ⟨d, small⟩

theorem worth_digitChar {d : Nat} (small : d < 16) : worth d.digitChar = d := by
  have table : ∀ d : Fin 16, worth d.val.digitChar = d.val := by decide
  exact table ⟨d, small⟩

theorem isHexDigit_digitChar {d : Nat} (small : d < 16) : IsHexDigit d.digitChar := by
  have table : ∀ d : Fin 16, IsHexDigit d.val.digitChar := by decide
  exact table ⟨d, small⟩

theorem exists_of_mem_digitRow {c : Char} (member : c ∈ digitRow) : ∃ d < 16, c = upperDigit d := by
  obtain ⟨d, small, rfl⟩ := List.mem_iff_getElem.mp member
  exact ⟨d, small, List.getElem_eq_getD '0'⟩

/-- What holds of the sixteen digits in either case holds of every digit. -/
@[elab_as_elim]
theorem IsHexDigit.elim {P : Char → Prop} {c : Char} (digit : IsHexDigit c)
    (table : ∀ d : Fin 16, P (upperDigit d.val) ∧ P (upperDigit d.val).toLower) : P c := by
  rcases digit with upper | lower
  · obtain ⟨d, small, rfl⟩ := exists_of_mem_digitRow upper
    exact (table ⟨d, small⟩).1
  · obtain ⟨upper, member, rfl⟩ := List.mem_map.mp lower
    obtain ⟨d, small, rfl⟩ := exists_of_mem_digitRow member
    exact (table ⟨d, small⟩).2

/-- No digit is one of the other characters that an address may be written with. -/
theorem IsHexDigit.ne {c : Char} (digit : IsHexDigit c) :
    c ≠ '_' ∧ c ≠ '+' ∧ c ≠ 'x' ∧ c ≠ 'X' :=
  digit.elim (by decide)

/-! ## Numerals -/

/-- A digit, and then digits and underscores. -/
inductive IsNumeral : List Char → Prop
  | intro {first : Char} {rest : List Char} : IsHexDigit first →
      (∀ c ∈ rest, IsHexDigit c ∨ c = '_') → IsNumeral (first :: rest)

/-- The number that a numeral stands for: the positional value of its digits, the highest first. -/
def valueOf (numeral : List Char) : Nat :=
  Nat.ofDigits 16 ((numeral.filter (· != '_')).map worth).reverse

/-- The number that the digits stand for behind digits worth `sum`. -/
def valueFrom (sum : Nat) (text : List Char) : Nat :=
  ((text.filter (· != '_')).map worth).foldl (fun sum d => 16 * sum + d) sum

theorem valueOf_eq_valueFrom (numeral : List Char) : valueOf numeral = valueFrom 0 numeral := by
  rw [valueOf, valueFrom, Nat.ofDigits_eq_foldr, List.foldr_reverse]
  simp only [Nat.cast_id, Nat.add_comm]

theorem valueFrom_underscore (sum : Nat) (rest : List Char) :
    valueFrom sum ('_' :: rest) = valueFrom sum rest := rfl

theorem valueFrom_digit {c : Char} (digit : IsHexDigit c) (sum : Nat) (rest : List Char) :
    valueFrom sum (c :: rest) = valueFrom (16 * sum + worth c) rest := by
  rw [valueFrom, List.filter_cons_of_pos (by simpa using digit.ne.1)]
  rfl

/-- Another digit moves the others up by one place. -/
theorem valueOf_concat {c : Char} (digit : IsHexDigit c) (text : List Char) :
    valueOf (text ++ [c]) = 16 * valueOf text + worth c := by
  have own : [c].filter (· != '_') = [c] := List.filter_cons_of_pos (by simpa using digit.ne.1)
  rw [valueOf, List.filter_append, own, List.map_append, List.reverse_append, Nat.add_comm]
  exact Nat.ofDigits_cons

/-- Zeros in front add nothing. -/
theorem valueOf_replicate_zero (count : Nat) (text : List Char) :
    valueOf (List.replicate count '0' ++ text) = valueOf text := by
  simp only [valueOf_eq_valueFrom]
  induction count with
  | zero => rfl
  | succ count ih =>
      rw [List.replicate_succ, List.cons_append, valueFrom_digit (by decide)]
      exact ih

/-! ## The digits of a number -/

/-- The digits of a number, each replaced by another one of the same worth, stand for the number. -/
theorem valueOf_toDigits {replace : Char → Char}
    (same : ∀ d < 16, IsHexDigit (replace d.digitChar) ∧ worth (replace d.digitChar) = d)
    (n : Nat) : valueOf ((Nat.toDigits 16 n).map replace) = n := by
  induction n using Nat.strongRecOn with
  | ind n ih =>
      rw [Nat.toDigits_eq_if (by decide)]
      split
      next small =>
          have digit := same n small
          rw [List.map_singleton, ← List.nil_append [replace _], valueOf_concat digit.1, digit.2]
          exact Nat.zero_add n
      next large =>
          have digit := same (n % 16) (Nat.mod_lt n (by decide))
          rw [List.map_append, List.map_singleton, valueOf_concat digit.1, digit.2,
            ih (n / 16) (by omega)]
          exact Nat.div_add_mod n 16

theorem exists_of_mem_toDigits {n : Nat} {c : Char} (member : c ∈ Nat.toDigits 16 n) :
    ∃ d < 16, c = d.digitChar := by
  induction n using Nat.strongRecOn with
  | ind n ih =>
      rw [Nat.toDigits_eq_if (by decide)] at member
      split at member
      next small => exact ⟨n, small, List.mem_singleton.mp member⟩
      next large =>
          rcases List.mem_append.mp member with early | last
          · exact ih (n / 16) (by omega) early
          · exact ⟨n % 16, Nat.mod_lt n (by decide), List.mem_singleton.mp last⟩

/-- Only the number zero has a zero for its first digit. -/
theorem head?_toDigits_eq_zero_iff (n : Nat) :
    (Nat.toDigits 16 n).head? = some '0' ↔ n = 0 := by
  induction n using Nat.strongRecOn with
  | ind n ih =>
      rw [Nat.toDigits_eq_if (by decide)]
      split
      next small =>
          have table : ∀ d : Fin 16, d.val.digitChar = '0' ↔ d.val = 0 := by decide
          rw [List.head?_cons, Option.some.injEq]
          exact table ⟨n, small⟩
      next large =>
          have begun : (Nat.toDigits 16 (n / 16)).head?.isSome = true := by
            rw [List.isSome_head?]
            simp
          rw [List.head?_append, Option.or_of_isSome begun, ih (n / 16) (by omega)]
          omega

namespace Address

/-! ## Reading numerals -/

theorem digitValue?_of_isHexDigit {c : Char} (digit : IsHexDigit c) :
    digitValue? c = some (worth c) :=
  digit.elim (by decide)

/-- Only digits are read as digits. -/
theorem isHexDigit_of_digitValue? {c : Char} {d : Nat} (read : digitValue? c = some d) :
    IsHexDigit c := by
  have within : ∀ {low high : Char}, low ≤ c ∧ c ≤ high →
      (∀ n < high.toNat + 1, low.toNat ≤ n → IsHexDigit (Char.ofNat n)) → IsHexDigit c := by
    intro low high between table
    rw [← Char.ofNat_toNat c]
    exact table c.toNat (Nat.lt_succ_of_le between.2) between.1
  unfold digitValue? at read
  split at read
  next between => exact within between (by decide)
  next =>
      split at read
      next between => exact within between (by decide)
      next =>
          split at read
          next between => exact within between (by decide)
          next => contradiction

theorem readTail?_eq_some_iff (sum : Nat) (text : List Char) (n : Nat) :
    readTail? sum text = some n ↔
      (∀ c ∈ text, IsHexDigit c ∨ c = '_') ∧ valueFrom sum text = n := by
  induction text generalizing sum with
  | nil => simp [readTail?, valueFrom]
  | cons c rest ih =>
      rw [readTail?, List.forall_mem_cons]
      split
      next underscore =>
          rw [ih, underscore, valueFrom_underscore]
          simp
      next other =>
          cases read : digitValue? c with
          | none =>
              have foreign : ¬ IsHexDigit c := by
                intro digit
                rw [digitValue?_of_isHexDigit digit] at read
                contradiction
              simp [foreign, other]
          | some d =>
              have digit := isHexDigit_of_digitValue? read
              rw [digitValue?_of_isHexDigit digit] at read
              rw [ih, valueFrom_digit digit, Option.some.inj read]
              simp [digit]

/-- Reading accepts just the numerals, and gives their value. -/
theorem readNumber?_eq_some_iff {text : List Char} {n : Nat} :
    readNumber? text = some n ↔ IsNumeral text ∧ valueOf text = n := by
  constructor
  · intro read
    cases text with
    | nil => contradiction
    | cons c rest =>
        rw [readNumber?] at read
        cases first : digitValue? c with
        | none =>
            rw [first] at read
            contradiction
        | some d =>
            have digit := isHexDigit_of_digitValue? first
            rw [digitValue?_of_isHexDigit digit] at read
            obtain ⟨others, value⟩ := (readTail?_eq_some_iff _ _ _).mp read
            refine ⟨.intro digit others, ?_⟩
            rw [valueOf_eq_valueFrom, valueFrom_digit digit, Nat.mul_zero, Nat.zero_add, value]
  · intro numeral
    obtain ⟨⟨digit, others⟩, value⟩ := numeral
    rw [readNumber?, digitValue?_of_isHexDigit digit]
    apply (readTail?_eq_some_iff _ _ _).mpr
    rw [valueOf_eq_valueFrom, valueFrom_digit digit, Nat.mul_zero, Nat.zero_add] at value
    exact ⟨others, value⟩

/-- Nothing is removed in front of a numeral. -/
theorem dropMarker_of_isNumeral {text : List Char} (numeral : IsNumeral text) :
    dropMarker text = text := by
  unfold dropMarker
  split
  · obtain ⟨-, others⟩ := numeral
    rcases others 'x' List.mem_cons_self with digit | same
    · exact (digit.ne.2.2.1 rfl).elim
    · contradiction
  · obtain ⟨-, others⟩ := numeral
    rcases others 'X' List.mem_cons_self with digit | same
    · exact (digit.ne.2.2.2 rfl).elim
    · contradiction
  · rfl

theorem dropPlus_of_isNumeral {text : List Char} (numeral : IsNumeral text) :
    dropPlus text = text := by
  unfold dropPlus
  split
  · obtain ⟨digit, -⟩ := numeral
    exact (digit.ne.2.1 rfl).elim
  · rfl

theorem readNumber?_of_isNumeral {text : List Char} (numeral : IsNumeral text) :
    readNumber? (dropPlus text) = some (valueOf text) := by
  rw [dropPlus_of_isNumeral numeral]
  exact readNumber?_eq_some_iff.mpr ⟨numeral, rfl⟩

/-- A numeral is read as its value. -/
theorem ofHex?_of_isNumeral {text : List Char} (numeral : IsNumeral text) :
    ofHex? (String.ofList text) = some ⟨valueOf text⟩ := by
  rw [ofHex?, String.toList_ofList, dropMarker_of_isNumeral numeral,
    readNumber?_of_isNumeral numeral]
  rfl

/-- A marker in front of a numeral makes no difference. -/
theorem ofHex?_of_marked {text : List Char} (numeral : IsNumeral text) :
    ofHex? (String.ofList ('0' :: 'x' :: text)) = some ⟨valueOf text⟩ := by
  rw [ofHex?, String.toList_ofList, dropMarker, readNumber?_of_isNumeral numeral]
  rfl

/-! ## Reading what was written -/

theorem isNumeral_of_digits {text : List Char} (nonempty : text ≠ [])
    (digits : ∀ c ∈ text, IsHexDigit c) : IsNumeral text := by
  cases text with
  | nil => contradiction
  | cons first rest =>
      obtain ⟨digit, others⟩ := List.forall_mem_cons.mp digits
      exact .intro digit fun c member => .inl (others c member)

theorem isHexDigit_of_mem_digits {a : Address} {c : Char} (member : c ∈ a.digits) :
    IsHexDigit c := by
  obtain ⟨d, small, rfl⟩ := exists_of_mem_toDigits member
  exact isHexDigit_digitChar small

theorem mem_digitRow_of_mem_upperDigits {a : Address} {c : Char} (member : c ∈ a.upperDigits) :
    c ∈ digitRow := by
  obtain ⟨lower, own, rfl⟩ := List.mem_map.mp member
  obtain ⟨d, small, rfl⟩ := exists_of_mem_toDigits own
  rw [toUpper_digitChar small]
  exact upperDigit_mem_digitRow small

theorem mem_digitRow_of_mem_leftpad {a : Address} {width : Nat} {c : Char}
    (member : c ∈ List.leftpad width '0' a.upperDigits) : c ∈ digitRow := by
  rw [List.leftpad, List.mem_append] at member
  rcases member with fill | own
  · rw [(List.mem_replicate.mp fill).2]
    decide
  · exact mem_digitRow_of_mem_upperDigits own

theorem isNumeral_digits (a : Address) : IsNumeral a.digits :=
  isNumeral_of_digits Nat.toDigits_ne_nil fun _ member => isHexDigit_of_mem_digits member

theorem isNumeral_leftpad (a : Address) (width : Nat) :
    IsNumeral (List.leftpad width '0' a.upperDigits) := by
  refine isNumeral_of_digits ?_ fun _ member => .inl (mem_digitRow_of_mem_leftpad member)
  simp [List.leftpad, upperDigits, digits]

theorem valueOf_digits (a : Address) : valueOf a.digits = a.value := by
  have same : ∀ d < 16, IsHexDigit (id d.digitChar) ∧ worth (id d.digitChar) = d :=
    fun d small => ⟨isHexDigit_digitChar small, worth_digitChar small⟩
  rw [← valueOf_toDigits same a.value, List.map_id, digits]

theorem valueOf_leftpad (a : Address) (width : Nat) :
    valueOf (List.leftpad width '0' a.upperDigits) = a.value := by
  rw [List.leftpad, valueOf_replicate_zero]
  refine valueOf_toDigits (fun d small => ?_) a.value
  rw [toUpper_digitChar small]
  exact ⟨.inl (upperDigit_mem_digitRow small), worth_upperDigit small⟩

theorem ofHex?_toHex (a : Address) : ofHex? a.toHex = some a := by
  rw [toHex, ofHex?_of_isNumeral a.isNumeral_digits, valueOf_digits]

/-- A padded address is read back, whatever its width. -/
theorem ofHex?_toPaddedHex (a : Address) (width : Nat) :
    ofHex? (a.toPaddedHex width) = some a := by
  rw [toPaddedHex, ofHex?_of_isNumeral (a.isNumeral_leftpad width), valueOf_leftpad]

theorem ofHex?_describe (a : Address) : ofHex? a.describe = some a := by
  rw [describe, ofHex?_of_marked a.isNumeral_digits, valueOf_digits]

theorem ofHex?_display (a : Address) : ofHex? a.display = some a := by
  -- the digits shown are those of a padded address without a fill
  have unfilled : List.leftpad 0 '0' a.upperDigits = a.upperDigits := by
    rw [List.leftpad, Nat.zero_sub]
    rfl
  rw [display, ← unfilled, ofHex?_of_marked (a.isNumeral_leftpad 0), valueOf_leftpad]

end Address

end MemoryPane
