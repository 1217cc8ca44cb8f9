import TaggedCatalog.Log.Level
import TaggedCatalog.Proofs.Number.DigitNumerals

/-! # The level that a text stands for

The word in a text is a numeral, the name of a level, or neither, and then it stands for
no level. What is refused is a word of digits alone that is no numeral after all: one of
its digits is not decimal, or there are too many of them. -/

namespace TaggedCatalog.LogLevel

/-- The word in a text, without the blanks around it. -/
def wordIn (text : String) : List Char := Text.stripBlanks text.toList

theorem parse_eq (text : String) :
    parse text =
      let word := Text.inCapitals (wordIn text)
      if isNumeral word then (Numeral.read (String.ofList word)).map some
      else .ok ((named.find? fun entry => entry.1 == String.ofList word).map (·.2)) := rfl

theorem isNumeral_iff (word : List Char) :
    isNumeral word = true ↔ word ≠ [] ∧ ∀ c ∈ word, Text.isDigit c = true := by
  simp [isNumeral]

/-- Letter case makes no numeral and undoes none. -/
theorem isNumeral_inCapitals (word : List Char) :
    isNumeral (Text.inCapitals word) = isNumeral word := by
  rw [Bool.eq_iff_iff, isNumeral_iff, isNumeral_iff]
  constructor
  · rintro ⟨filled, digits⟩
    have wordDigits := Text.digits_of_inCapitals digits
    rw [Text.inCapitals_of_digits wordDigits] at filled
    exact ⟨filled, wordDigits⟩
  · rintro ⟨filled, digits⟩
    rw [Text.inCapitals_of_digits digits]
    exact ⟨filled, digits⟩

/-! ## Words of digits -/

theorem parse_of_digits {text : String} (filled : wordIn text ≠ [])
    (digits : ∀ c ∈ wordIn text, Text.isDigit c = true) :
    parse text = (Numeral.read (String.ofList (wordIn text))).map some := by
  have numeral : isNumeral (Text.inCapitals (wordIn text)) = true := by
    rw [isNumeral_inCapitals, isNumeral_iff]
    exact ⟨filled, digits⟩
  rw [parse_eq, if_pos numeral, Text.inCapitals_of_digits digits]

theorem parse_of_spells {text : String} {digits : List Nat}
    (spells : Numeral.Spells (wordIn text) digits) (short : digits.length ≤ Numeral.digitLimit) :
    parse text = .ok (some (Nat.ofDigits 10 digits.reverse : Nat)) := by
  have isDigit : ∀ c ∈ wordIn text, Text.isDigit c = true :=
    fun c member => Text.isDigit_of_isDecimal (spells.isDecimal member)
  rw [parse_of_digits spells.word_ne_nil isDigit, spells.read_eq short]
  rfl

/-! ## Other words -/

theorem parse_of_other {text : String} (other : isNumeral (wordIn text) = false) :
    parse text = .ok ((named.find? fun entry =>
      entry.1 == String.ofList (Text.inCapitals (wordIn text))).map (·.2)) := by
  have noNumeral : ¬isNumeral (Text.inCapitals (wordIn text)) = true := by
    rw [isNumeral_inCapitals, other]
    exact Bool.false_ne_true
  rw [parse_eq, if_neg noNumeral]

theorem find?_named_eq_some_iff {word : List Char} {entry : String × Int} :
    (named.find? fun other => other.1 == String.ofList word) = some entry ↔
      entry ∈ named ∧ word = entry.1.toList := by
  have first : ∀ entry ∈ named, named.find? (fun other => other.1 == entry.1) = some entry := by
    decide
  constructor
  · intro found
    have spelled := List.find?_some found
    simp only [beq_iff_eq] at spelled
    exact ⟨List.mem_of_find?_eq_some found, by rw [spelled, String.toList_ofList]⟩
  · rintro ⟨known, rfl⟩
    rw [String.ofList_toList]
    exact first entry known

/-- No name of a level is a numeral. -/
theorem isNumeral_of_named {text : String} {entry : String × Int} (known : entry ∈ named)
    (spelled : Text.inCapitals (wordIn text) = entry.1.toList) :
    isNumeral (wordIn text) = false := by
  have plain : ∀ entry ∈ named, isNumeral entry.1.toList = false := by decide
  rw [← isNumeral_inCapitals, spelled]
  exact plain entry known

theorem parse_of_named {text : String} {entry : String × Int} (known : entry ∈ named)
    (spelled : Text.inCapitals (wordIn text) = entry.1.toList) :
    parse text = .ok (some entry.2) := by
  rw [parse_of_other (isNumeral_of_named known spelled),
    find?_named_eq_some_iff.mpr ⟨known, spelled⟩]
  rfl

theorem parse_of_unknown {text : String} (other : isNumeral (wordIn text) = false)
    (unknown : ∀ entry ∈ named, Text.inCapitals (wordIn text) ≠ entry.1.toList) :
    parse text = .ok none := by
  have noEntry : (named.find? fun entry =>
      entry.1 == String.ofList (Text.inCapitals (wordIn text))) = none := by
    rw [Option.eq_none_iff_forall_ne_some]
    intro entry found
    rcases find?_named_eq_some_iff.mp found with ⟨known, spelled⟩
    exact unknown entry known spelled
  rw [parse_of_other other, noEntry]
  rfl

/-! ## What is refused -/

/-- A word of digits alone that is no numeral: not all of them are decimal, or there are
too many. -/
structure OddDigits (word : List Char) : Prop where
  filled : word ≠ []
  digits : ∀ c ∈ word, Text.isDigit c = true
  odd : (∃ c ∈ word, Text.isDecimal c = false) ∨ Numeral.digitLimit < word.length

/-- Digits that are not refused spell a number. -/
theorem exists_spells {word : List Char} (numeral : isNumeral word = true)
    (notOdd : ¬ OddDigits word) :
    ∃ digits, Numeral.Spells word digits ∧ digits.length ≤ Numeral.digitLimit := by
  rcases (isNumeral_iff word).mp numeral with ⟨filled, digits⟩
  have decimal : ∀ c ∈ word, Text.isDecimal c = true := by
    intro c member
    cases value : Text.isDecimal c with
    | true => rfl
    | false => exact absurd ⟨filled, digits, .inl ⟨c, member, value⟩⟩ notOdd
  have spells := Numeral.spells_filterMap filled decimal
  refine ⟨_, spells, ?_⟩
  rw [← spells.length_eq]
  apply Nat.le_of_not_lt
  intro tooLong
  exact notOdd ⟨filled, digits, .inr tooLong⟩

theorem exists_parse_eq_error_iff (text : String) :
    (∃ problem, parse text = .error problem) ↔ OddDigits (wordIn text) := by
  cases numeral : isNumeral (wordIn text) with
  | true =>
      rcases (isNumeral_iff _).mp numeral with ⟨filled, digits⟩
      have read_iff := Numeral.exists_read_eq_error_iff digits filled
      have refused_iff : (∃ problem, parse text = .error problem) ↔
          ∃ problem, Numeral.read (String.ofList (wordIn text)) = .error problem := by
        rw [parse_of_digits filled digits]
        cases Numeral.read (String.ofList (wordIn text)) <;> simp [Except.map]
      rw [refused_iff, read_iff]
      exact ⟨fun odd => ⟨filled, digits, odd⟩, fun odd => odd.odd⟩
  | false =>
      rw [parse_of_other numeral]
      refine iff_of_false (by rintro ⟨problem, ⟨⟩⟩) ?_
      rintro ⟨filled, digits, -⟩
      rw [(isNumeral_iff _).mpr ⟨filled, digits⟩] at numeral
      cases numeral

end TaggedCatalog.LogLevel
