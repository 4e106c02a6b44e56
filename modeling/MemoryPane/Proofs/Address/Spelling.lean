import MemoryPane.Proofs.Address.Hex

/-!
Which texts are read as addresses: those that spell a numeral (`Address.Spells`). The grammar is
told by what stands where in a text, without a reader; `Address.spells_iff` says that taking off a
marker and a plus sign, as reading does, leaves just the numeral that is spelt. Some of the ways to
miss the grammar are told as well (`Address.Misspelt`).
-/

namespace MemoryPane.Address

variable {text rest numeral : List Char}

/-! ## The grammar -/

/-- `rest` is what the text has behind its marker, or all of it if there is none in front. -/
inductive Unmarked : List Char → List Char → Prop
  | lower (rest : List Char) : Unmarked ('0' :: 'x' :: rest) rest
  | upper (rest : List Char) : Unmarked ('0' :: 'X' :: rest) rest
  | plain {text : List Char} : (∀ rest, text ≠ '0' :: 'x' :: rest) →
      (∀ rest, text ≠ '0' :: 'X' :: rest) → Unmarked text text

/-- Behind its marker, if it has one, the text is the numeral, or one plus sign and the numeral. -/
structure Spells (text numeral : List Char) : Prop where
  isNumeral : IsNumeral numeral
  behind : Unmarked text numeral ∨ Unmarked text ('+' :: numeral)

theorem unmarked_iff : Unmarked text rest ↔ dropMarker text = rest := by
  constructor
  · intro unmarked
    cases unmarked with
    | lower | upper => rfl
    | plain notLower notUpper =>
        unfold dropMarker
        split
        · exact (notLower _ rfl).elim
        · exact (notUpper _ rfl).elim
        · rfl
  · intro left
    subst left
    unfold dropMarker
    split
    · exact .lower _
    · exact .upper _
    next notLower notUpper =>
        exact .plain (fun _ same => notLower _ same) (fun _ same => notUpper _ same)

theorem dropPlus_eq_iff (isNumeral : IsNumeral numeral) :
    dropPlus rest = numeral ↔ rest = numeral ∨ rest = '+' :: numeral := by
  constructor
  · intro left
    subst left
    unfold dropPlus
    split
    · exact .inr rfl
    · exact .inl rfl
  · intro signed
    rcases signed with rfl | rfl
    · exact dropPlus_of_isNumeral isNumeral
    · rfl

/-- A text spells the numeral that is left of it. -/
theorem spells_iff :
    Spells text numeral ↔ IsNumeral numeral ∧ dropPlus (dropMarker text) = numeral := by
  constructor
  · intro spells
    have behind := spells.behind
    rw [unmarked_iff, unmarked_iff] at behind
    exact ⟨spells.isNumeral, (dropPlus_eq_iff spells.isNumeral).mpr behind⟩
  · intro left
    obtain ⟨isNumeral, same⟩ := left
    refine ⟨isNumeral, ?_⟩
    rw [unmarked_iff, unmarked_iff]
    exact (dropPlus_eq_iff isNumeral).mp same

theorem ofHex?_eq_some_iff {text : String} {a : Address} :
    ofHex? text = some a ↔ ∃ numeral, Spells text.toList numeral ∧ a = ⟨valueOf numeral⟩ := by
  rw [ofHex?, Option.map_eq_some_iff]
  constructor
  · intro answer
    obtain ⟨n, read, rfl⟩ := answer
    obtain ⟨isNumeral, rfl⟩ := readNumber?_eq_some_iff.mp read
    exact ⟨_, spells_iff.mpr ⟨isNumeral, rfl⟩, rfl⟩
  · intro spelt
    obtain ⟨numeral, spells, rfl⟩ := spelt
    obtain ⟨isNumeral, left⟩ := spells_iff.mp spells
    have read : readNumber? (dropPlus (dropMarker text.toList)) = some (valueOf numeral) :=
      readNumber?_eq_some_iff.mpr ⟨left ▸ isNumeral, by rw [left]⟩
    exact ⟨_, read, rfl⟩

/-! ## Texts that spell nothing -/

/-- Some of the ways in which a text misses the grammar. -/
inductive Misspelt : List Char → Prop
  /-- The text is empty, or a mere marker. -/
  | empty {text : List Char} : Unmarked text [] → Misspelt text
  | onlyPlus {text : List Char} : Unmarked text ['+'] → Misspelt text
  | secondMarker {text rest : List Char} {letter : Char} : letter = 'x' ∨ letter = 'X' →
      Unmarked text ('0' :: letter :: rest) → Misspelt text
  | markerBehindPlus {text rest : List Char} {letter : Char} : letter = 'x' ∨ letter = 'X' →
      Unmarked text ('+' :: '0' :: letter :: rest) → Misspelt text
  | secondPlus {text rest : List Char} : Unmarked text ('+' :: '+' :: rest) → Misspelt text
  | underscore {text rest : List Char} :
      Unmarked text ('_' :: rest) ∨ Unmarked text ('+' :: '_' :: rest) → Misspelt text
  /-- There is a character in the text that no address is written with: a space, a minus sign,
  any other sign, a letter beyond `f`, or none of the ASCII characters. -/
  | foreign {text : List Char} {c : Char} : c ∈ text → ¬ IsHexDigit c →
      c ≠ '_' ∧ c ≠ '+' ∧ c ≠ 'x' ∧ c ≠ 'X' → Misspelt text

theorem not_isNumeral_of_first {c : Char} (foreign : ¬ IsHexDigit c) : ¬ IsNumeral (c :: rest) := by
  intro isNumeral
  obtain ⟨digit, -⟩ := isNumeral
  exact foreign digit

theorem not_isNumeral_of_marker {letter : Char} (marker : letter = 'x' ∨ letter = 'X') :
    ¬ IsNumeral ('0' :: letter :: rest) := by
  intro isNumeral
  obtain ⟨-, others⟩ := isNumeral
  rcases marker with rfl | rfl
  · exact absurd (others 'x' List.mem_cons_self) (by decide)
  · exact absurd (others 'X' List.mem_cons_self) (by decide)

/-- What is taken off a text is made of digits, plus signs and the letters of a marker. -/
theorem mem_dropPlus_dropMarker {c : Char} (member : c ∈ text) (foreign : ¬ IsHexDigit c)
    (other : c ≠ '_' ∧ c ≠ '+' ∧ c ≠ 'x' ∧ c ≠ 'X') : c ∈ dropPlus (dropMarker text) := by
  have zero : c ≠ '0' := by
    rintro rfl
    exact foreign (by decide)
  have kept : c ∈ dropMarker text := by
    unfold dropMarker
    split
    · simpa [zero, other] using member
    · simpa [zero, other] using member
    · exact member
  unfold dropPlus
  split
  next rest plus =>
      rw [plus] at kept
      simpa [other] using kept
  next => exact kept

theorem Misspelt.not_spells (misspelt : Misspelt text) : ¬ Spells text numeral := by
  intro spells
  obtain ⟨isNumeral, rfl⟩ := spells_iff.mp spells
  cases misspelt with
  | empty unmarked =>
      rw [unmarked_iff.mp unmarked] at isNumeral
      cases isNumeral
  | onlyPlus unmarked =>
      rw [unmarked_iff.mp unmarked] at isNumeral
      cases isNumeral
  | secondMarker marker unmarked =>
      rw [unmarked_iff.mp unmarked] at isNumeral
      exact not_isNumeral_of_marker marker isNumeral
  | markerBehindPlus marker unmarked =>
      rw [unmarked_iff.mp unmarked] at isNumeral
      exact not_isNumeral_of_marker marker isNumeral
  | secondPlus unmarked =>
      rw [unmarked_iff.mp unmarked] at isNumeral
      exact not_isNumeral_of_first (by decide) isNumeral
  | underscore unmarked =>
      rcases unmarked with unmarked | unmarked
      · rw [unmarked_iff.mp unmarked] at isNumeral
        exact not_isNumeral_of_first (by decide) isNumeral
      · rw [unmarked_iff.mp unmarked] at isNumeral
        exact not_isNumeral_of_first (by decide) isNumeral
  | foreign member foreign other =>
      have kept := mem_dropPlus_dropMarker member foreign other
      generalize dropPlus (dropMarker text) = left at isNumeral kept
      obtain ⟨digit, others⟩ := isNumeral
      rcases List.mem_cons.mp kept with rfl | later
      · exact foreign digit
      · rcases others _ later with digit | underscore
        · exact foreign digit
        · exact other.1 underscore

/-! ## Reading -/

theorem ofHex?_eq_none {text : String} (nothing : ∀ numeral, ¬ Spells text.toList numeral) :
    ofHex? text = none := by
  rw [Option.eq_none_iff_forall_ne_some]
  intro a read
  obtain ⟨numeral, spells, -⟩ := ofHex?_eq_some_iff.mp read
  exact nothing numeral spells

/-- A text is read as an address exactly if it spells a numeral, and then as the value of the
numeral. Any other text is refused, and so is each that is misspelt in one of the ways listed. -/
theorem reads_iff_spells (text : String) :
    ((ofHex? text).isSome = true ↔ ∃ numeral, Spells text.toList numeral) ∧
      (∀ numeral, Spells text.toList numeral → ofHex? text = some ⟨valueOf numeral⟩) ∧
      ((¬ ∃ numeral, Spells text.toList numeral) → ofHex? text = none) ∧
      (Misspelt text.toList → ofHex? text = none) := by
  refine ⟨?_, ?_, ?_, ?_⟩
  · rw [Option.isSome_iff_exists]
    constructor
    · intro answer
      obtain ⟨a, read⟩ := answer
      obtain ⟨numeral, spells, -⟩ := ofHex?_eq_some_iff.mp read
      exact ⟨numeral, spells⟩
    · intro spelt
      obtain ⟨numeral, spells⟩ := spelt
      exact ⟨_, ofHex?_eq_some_iff.mpr ⟨numeral, spells, rfl⟩⟩
  · intro numeral spells
    exact ofHex?_eq_some_iff.mpr ⟨numeral, spells, rfl⟩
  · intro nothing
    exact ofHex?_eq_none fun numeral spells => nothing ⟨numeral, spells⟩
  · intro misspelt
    exact ofHex?_eq_none fun numeral => misspelt.not_spells

example : ofHex? "0X+1_f" = some ⟨0x1f⟩ := by decide +kernel

end MemoryPane.Address
