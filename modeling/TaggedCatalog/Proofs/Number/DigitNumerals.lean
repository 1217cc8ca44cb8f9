import Mathlib.Data.List.Induction
import Mathlib.Data.List.TakeWhile
import Mathlib.Data.Nat.Digits.Defs
import TaggedCatalog.Number.Numeral
import TaggedCatalog.Text.LetterCase

/-! # Numerals of digits alone

A word of nothing but digits has neither blanks nor a sign nor underscores, and letter
case leaves it alone. It is read as the number that it spells in base ten, unless one of
its digits is no decimal digit or there are too many of them. -/

namespace TaggedCatalog

namespace Text

/-! ## Digits among the characters -/

/-- No code is in two sets of ranges that are apart. -/
theorem CodeRanges.contains_eq_false_of_apart {left right : CodeRanges}
    (apart : ∀ range ∈ left, ∀ other ∈ right, range.2 < other.1 ∨ other.2 < range.1) {c : Char}
    (held : left.contains c = true) : right.contains c = false := by
  rw [Bool.eq_false_iff]
  intro heldToo
  simp only [contains, containsCode, List.any_eq_true, Bool.and_eq_true, decide_eq_true_eq]
    at held heldToo
  rcases held with ⟨range, member, within⟩
  rcases heldToo with ⟨other, otherMember, withinToo⟩
  have separate := apart range member other otherMember
  omega

/-- The digits of all scripts as ranges. -/
def digitRanges : CodeRanges :=
  decimalZeros.map (fun first => (first, first + 9)) ++ otherDigitRanges

theorem isDigit_eq_contains (c : Char) : isDigit c = digitRanges.contains c := by
  rw [isDigit, isDecimal, decimalValue?, Option.isSome_map, digitRanges, CodeRanges.contains,
    CodeRanges.contains, CodeRanges.containsCode, CodeRanges.containsCode, List.any_append,
    List.any_map]
  congr 1
  rw [List.isSome_find?]
  rfl

theorem isDigit_of_isDecimal {c : Char} (decimal : isDecimal c = true) : isDigit c = true := by
  rw [isDigit, decimal, Bool.true_or]

theorem isDigit_of_isBlank {c : Char} (blank : isBlank c = true) : isDigit c = false := by
  rw [isDigit_eq_contains]
  exact CodeRanges.contains_eq_false_of_apart (by decide +kernel) blank

/-- The letters of the Latin alphabet, capital and small. -/
def letterRanges : CodeRanges := [(0x41, 0x5A), (0x61, 0x7A)]

theorem isDigit_of_letter {c : Char} (letter : letterRanges.contains c = true) :
    isDigit c = false := by
  rw [isDigit_eq_contains]
  exact CodeRanges.contains_eq_false_of_apart (by decide +kernel) letter

/-! ## Letter case -/

/-- A character with another capital form is no digit, and neither is that form. -/
theorem toUpper_eq_or (c : Char) :
    c.toUpper = c ∨ isDigit c = false ∧ isDigit c.toUpper = false := by
  by_cases small : 'a'.val ≤ c.val ∧ c.val ≤ 'z'.val
  · have bounds : 97 ≤ c.toNat ∧ c.toNat ≤ 122 := small
    have capital : c.toUpper.toNat = c.toNat - 32 := by
      have form : c.toUpper = ⟨c.val + ('A'.val - 'a'.val), _⟩ := dif_pos small
      have shifted : c.toUpper.toNat = (c.toNat + (2 ^ 32 - 32)) % 2 ^ 32 := by
        rw [form]
        exact UInt32.toNat_add _ _
      omega
    refine .inr ⟨isDigit_of_letter ?_, isDigit_of_letter ?_⟩
    · simp [letterRanges, CodeRanges.contains, CodeRanges.containsCode]
      omega
    · simp [letterRanges, CodeRanges.contains, CodeRanges.containsCode, capital]
      omega
  · have same : c.toUpper = c := dif_neg small
    exact .inl same

theorem capitalForm_eq_or (c : Char) :
    capitalForm c = [c] ∨ isDigit c = false ∧ ∃ form ∈ capitalForm c, isDigit form = false := by
  unfold capitalForm
  split
  case h_11 =>
    rcases toUpper_eq_or c with same | ⟨notDigit, notDigitToo⟩
    · exact .inl (by rw [same])
    · exact .inr ⟨notDigit, _, List.mem_cons_self, notDigitToo⟩
  all_goals exact .inr ⟨by decide, _, List.mem_cons_self, by decide⟩

theorem inCapitals_of_digits {word : List Char} (digits : ∀ c ∈ word, isDigit c = true) :
    inCapitals word = word := by
  induction word with
  | nil => rfl
  | cons c rest induction =>
      have parts := List.forall_mem_cons.mp digits
      have kept : capitalForm c = [c] := by
        rcases capitalForm_eq_or c with same | ⟨notDigit, -⟩
        · exact same
        · rw [parts.1] at notDigit
          cases notDigit
      change capitalForm c ++ inCapitals rest = _
      rw [kept, induction parts.2]
      rfl

/-- Only digits have digits for their capital forms. -/
theorem digits_of_inCapitals {word : List Char}
    (digits : ∀ c ∈ inCapitals word, isDigit c = true) : ∀ c ∈ word, isDigit c = true := by
  intro c member
  have forms : ∀ form ∈ capitalForm c, isDigit form = true := by
    intro form isForm
    exact digits form (List.mem_flatMap.mpr ⟨c, member, isForm⟩)
  rcases capitalForm_eq_or c with same | ⟨-, form, isForm, notDigit⟩
  · exact forms c (by rw [same]; exact List.mem_cons_self)
  · rw [forms form isForm] at notDigit
    cases notDigit

end Text

namespace Numeral

/-! ## Reading -/

/-- A word of decimal digits, and the values of them. -/
structure Spells (word : List Char) (digits : List Nat) : Prop where
  filled : digits ≠ []
  values : word.map Text.decimalValue? = digits.map some

theorem valueOf_eq_ofDigits (digits : List Nat) : valueOf digits = Nat.ofDigits 10 digits.reverse := by
  rw [valueOf, List.foldl_eq_foldr_reverse, Nat.ofDigits_eq_foldr]
  congr 1
  funext digit total
  rw [Nat.add_comm, Nat.mul_comm]
  rfl

theorem valueOf_eq_zero_iff (digits : List Nat) :
    valueOf digits = 0 ↔ ∀ digit ∈ digits, digit = 0 := by
  induction digits using List.reverseRecOn with
  | nil => simp [valueOf]
  | append_singleton before last induction =>
      have step : valueOf (before ++ [last]) = valueOf before * 10 + last := by
        simp [valueOf, List.foldl_append]
      rw [step]
      constructor
      · intro zero
        have parts : valueOf before = 0 ∧ last = 0 := by omega
        intro digit member
        rcases List.mem_append.mp member with inBefore | isLast
        · exact induction.mp parts.1 digit inBefore
        · rw [List.mem_singleton.mp isLast, parts.2]
      · intro zeros
        rw [induction.mpr fun digit member => zeros digit (List.mem_append_left _ member),
          zeros last (by simp)]

theorem leadingDigits_cons (c : Char) {rest : List Char} (free : rest.head? ≠ some '_') :
    leadingDigits (c :: rest) =
      match Text.decimalValue? c with
      | none => ([], c :: rest)
      | some digit => (digit :: (leadingDigits rest).1, (leadingDigits rest).2) := by
  have noUnderscore : ∀ tail, rest = '_' :: tail → False := by
    intro tail underscore
    rw [underscore] at free
    exact free rfl
  exact leadingDigits.eq_3 c rest noUnderscore

theorem map_decimalValue? {word : List Char} (decimal : ∀ c ∈ word, Text.isDecimal c = true) :
    word.map Text.decimalValue? = (word.filterMap Text.decimalValue?).map some := by
  induction word with
  | nil => rfl
  | cons c rest induction =>
      have parts := List.forall_mem_cons.mp decimal
      rcases Option.isSome_iff_exists.mp parts.1 with ⟨digit, value⟩
      rw [List.map_cons, List.filterMap_cons_some value, List.map_cons, induction parts.2, value]

theorem length_filterMap_decimalValue? {word : List Char}
    (decimal : ∀ c ∈ word, Text.isDecimal c = true) :
    (word.filterMap Text.decimalValue?).length = word.length := by
  have lengths := congrArg List.length (map_decimalValue? decimal)
  rw [List.length_map, List.length_map] at lengths
  exact lengths.symm

theorem spells_filterMap {word : List Char} (filled : word ≠ [])
    (decimal : ∀ c ∈ word, Text.isDecimal c = true) :
    Spells word (word.filterMap Text.decimalValue?) where
  filled := by
    apply List.ne_nil_of_length_pos
    rw [length_filterMap_decimalValue? decimal]
    exact List.length_pos_iff.mpr filled
  values := map_decimalValue? decimal

section Digits

variable {word : List Char} (digits : ∀ c ∈ word, Text.isDigit c = true)

include digits

theorem stripOuter_of_digits : stripOuter word = word := by
  have kept : ∀ {part : List Char}, part ⊆ word → part.dropWhile isOuterBlank = part := by
    intro part within
    cases part with
    | nil => rfl
    | cons c rest =>
        apply List.dropWhile_cons_of_neg
        intro blank
        have isBlank : Text.isBlank c = true := (Bool.and_eq_true_iff.mp blank).1
        have isDigit := digits c (within List.mem_cons_self)
        rw [Text.isDigit_of_isBlank isBlank] at isDigit
        cases isDigit
  have whole : word ⊆ word := List.Subset.refl word
  rw [stripOuter, kept whole, kept (List.reverse_subset.mpr whole), List.reverse_reverse]

theorem head?_ne_of_digits {c : Char} (notDigit : Text.isDigit c = false) :
    word.head? ≠ some c := by
  intro starts
  rw [digits c (List.mem_of_mem_head? starts)] at notDigit
  cases notDigit

theorem leadingDigits_of_digits :
    leadingDigits word =
      ((word.takeWhile Text.isDecimal).filterMap Text.decimalValue?,
        word.dropWhile Text.isDecimal) := by
  induction word with
  | nil => rfl
  | cons c rest induction =>
      have restDigits := (List.forall_mem_cons.mp digits).2
      rw [leadingDigits_cons c (head?_ne_of_digits restDigits (by decide)), induction restDigits]
      cases value : Text.decimalValue? c with
      | none => simp [Text.isDecimal, value]
      | some digit => simp [Text.isDecimal, value]

/-- A word of digits, up to the first that is not decimal, may not be too long; then it
has to end there. -/
theorem read_of_digits (filled : word ≠ []) :
    read (String.ofList word) =
      if digitLimit < (word.takeWhile Text.isDecimal).length then
        .error (.tooLong (word.takeWhile Text.isDecimal).length)
      else if word.all Text.isDecimal then .ok (valueOf (word.filterMap Text.decimalValue?))
      else .error (.invalid (String.ofList word)) := by
  have counted : ((word.takeWhile Text.isDecimal).filterMap Text.decimalValue?).length =
      (word.takeWhile Text.isDecimal).length :=
    length_filterMap_decimalValue? (List.all_eq_true.mp List.all_takeWhile)
  have noUnderscore : (word.dropWhile Text.isDecimal).head? ≠ some '_' :=
    head?_ne_of_digits (fun c member => digits c (List.dropWhile_subset _ member)) (by decide)
  rw [read, String.toList_ofList, stripOuter_of_digits digits]
  simp only
  split
  · exact absurd rfl (head?_ne_of_digits digits (show Text.isDigit '-' = false by decide))
  · exact absurd rfl (head?_ne_of_digits digits (show Text.isDigit '+' = false by decide))
  · rw [leadingDigits_of_digits digits]
    simp only [if_neg noUnderscore, counted, gt_iff_lt]
    congr 1
    cases decimal : word.all Text.isDecimal with
    | true =>
        have allDecimal := List.all_eq_true.mp decimal
        have values := (spells_filterMap filled allDecimal).filled
        have whole : word.takeWhile Text.isDecimal = word :=
          List.takeWhile_eq_self_iff.mpr allDecimal
        have nothing : word.dropWhile Text.isDecimal = [] :=
          List.dropWhile_eq_nil_iff.mpr allDecimal
        simp [whole, nothing, values]
    | false =>
        have ends : word.dropWhile Text.isDecimal ≠ [] := by
          rw [ne_eq, List.dropWhile_eq_nil_iff, ← List.all_eq_true, decimal]
          exact Bool.false_ne_true
        simp [ends]

/-- A word of digits is refused for a digit that is not decimal, and for its length. -/
theorem exists_read_eq_error_iff (filled : word ≠ []) :
    (∃ problem, read (String.ofList word) = .error problem) ↔
      (∃ c ∈ word, Text.isDecimal c = false) ∨ digitLimit < word.length := by
  rw [read_of_digits digits filled]
  cases decimal : word.all Text.isDecimal with
  | true =>
      have allDecimal := List.all_eq_true.mp decimal
      have noOther : ¬∃ c ∈ word, Text.isDecimal c = false := by
        rintro ⟨c, member, other⟩
        rw [allDecimal c member] at other
        cases other
      rw [List.takeWhile_eq_self_iff.mpr allDecimal, or_iff_right noOther]
      split
      · rename_i tooLong
        exact iff_of_true ⟨_, rfl⟩ tooLong
      · rename_i short
        refine iff_of_false ?_ short
        rintro ⟨problem, ⟨⟩⟩
  | false =>
      refine iff_of_true ?_ (.inl (by simpa using decimal))
      split <;> exact ⟨_, rfl⟩

end Digits

/-! ## Numbers -/

namespace Spells

variable {word : List Char} {digits : List Nat}

theorem isDecimal (spells : Spells word digits) {c : Char} (member : c ∈ word) :
    Text.isDecimal c = true := by
  have given : Text.decimalValue? c ∈ digits.map some := by
    rw [← spells.values]
    exact List.mem_map_of_mem member
  rcases List.mem_map.mp given with ⟨digit, -, value⟩
  rw [Text.isDecimal, ← value]
  rfl

theorem length_eq (spells : Spells word digits) : word.length = digits.length := by
  have lengths := congrArg List.length spells.values
  rwa [List.length_map, List.length_map] at lengths

theorem word_ne_nil (spells : Spells word digits) : word ≠ [] := by
  intro empty
  have lengths := spells.length_eq
  rw [empty] at lengths
  exact spells.filled (List.length_eq_zero_iff.mp lengths.symm)

theorem filterMap_eq (spells : Spells word digits) :
    word.filterMap Text.decimalValue? = digits := by
  have same := map_decimalValue? fun c member => spells.isDecimal member
  rw [spells.values] at same
  exact (List.map_inj_right fun _ _ => Option.some.inj).mp same.symm

theorem read_eq (spells : Spells word digits) (short : digits.length ≤ digitLimit) :
    read (String.ofList word) = .ok (Nat.ofDigits 10 digits.reverse : Nat) := by
  have decimal : ∀ c ∈ word, Text.isDecimal c = true := fun c member => spells.isDecimal member
  have allowed : ¬digitLimit < word.length := by
    rw [spells.length_eq]
    exact Nat.not_lt.mpr short
  rw [read_of_digits (fun c member => Text.isDigit_of_isDecimal (decimal c member)) spells.word_ne_nil,
    List.takeWhile_eq_self_iff.mpr decimal, if_neg allowed, if_pos (List.all_eq_true.mpr decimal),
    spells.filterMap_eq, valueOf_eq_ofDigits]

end Spells

end Numeral

end TaggedCatalog
