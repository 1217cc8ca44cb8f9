import TaggedCatalog.Log.Setup
import TaggedCatalog.Proofs.Log.LevelReading

/-! # Two ways to set the log up from the environment

The log can be set up without a level, and then takes the one that the environment
names; or the level is looked up first, and the log is set up with it. Both come to the
same, but for level zero: it counts as no level where it is looked up in place of a
missing one, and as a level where it is passed on. -/

namespace TaggedCatalog

/-! ## Texts for level zero -/

namespace LogLevel

/-- A text that stands for level zero: a numeral of zeros, or the name of the level. -/
def NamesZero (text : String) : Prop :=
  (∃ digits, Numeral.Spells (wordIn text) digits ∧ digits.length ≤ Numeral.digitLimit ∧
    ∀ digit ∈ digits, digit = 0) ∨ Text.inCapitals (wordIn text) = "NOTSET".toList

theorem parse_eq_zero_iff (text : String) : parse text = .ok (some 0) ↔ NamesZero text := by
  constructor
  · intro zero
    cases numeral : isNumeral (wordIn text) with
    | true =>
        have notOdd : ¬ OddDigits (wordIn text) := by
          rw [← exists_parse_eq_error_iff, zero]
          rintro ⟨problem, ⟨⟩⟩
        rcases exists_spells numeral notOdd with ⟨digits, spells, short⟩
        rw [parse_of_spells spells short, ← Numeral.valueOf_eq_ofDigits] at zero
        have isZero : Numeral.valueOf digits = 0 := by simpa using zero
        exact .inl ⟨digits, spells, short, (Numeral.valueOf_eq_zero_iff digits).mp isZero⟩
    | false =>
        have onlyName : ∀ entry ∈ named, entry.2 = 0 → entry.1 = "NOTSET" := by decide
        rw [parse_of_other numeral, Except.ok.injEq, Option.map_eq_some_iff] at zero
        rcases zero with ⟨entry, found, isZero⟩
        rcases find?_named_eq_some_iff.mp found with ⟨known, spelled⟩
        exact .inr (by rw [spelled, onlyName entry known isZero])
  · rintro (⟨digits, spells, short, zeros⟩ | spelled)
    · have zero : Numeral.valueOf digits = 0 := (Numeral.valueOf_eq_zero_iff digits).mpr zeros
      rw [parse_of_spells spells short, ← Numeral.valueOf_eq_ofDigits, zero]
      rfl
    · exact parse_of_named (show ("NOTSET", 0) ∈ named by decide) spelled

end LogLevel

/-! ## Setting up -/

namespace LogState

theorem foldl_removeHandler (level : Int) (handlers : List String) :
    handlers.foldl removeHandler ⟨level, handlers⟩ = ⟨level, []⟩ := by
  induction handlers with
  | nil => rfl
  | cons pattern rest induction =>
      have removed : removeHandler ⟨level, pattern :: rest⟩ pattern = ⟨level, rest⟩ := by
        rw [removeHandler, List.erase_cons_head]
      rw [List.foldl_cons, removed, induction]

/-- What the log was before does not matter. -/
theorem configure_eq (state : LogState) (level : Int) :
    state.configure level = ⟨level, [patternAt level]⟩ := by
  rw [configure, foldl_removeHandler]
  rfl

theorem setUp_none_of_read {state : LogState} {named : Option String} {found : Option Int}
    (read : LogLevel.parseVariable named = .ok found) :
    state.setUp none named = .ok ⟨orCritical found, [patternAt (orCritical found)]⟩ := by
  rw [setUp, read, Except.map, configure_eq]

theorem setUpFromEnvironment_of_read {state : LogState} {named : Option String}
    {found : Option Int} (read : LogLevel.parseVariable named = .ok found) :
    state.setUpFromEnvironment named =
      .ok ⟨found.getD LogLevel.critical, [patternAt (found.getD LogLevel.critical)]⟩ := by
  rw [setUpFromEnvironment, read]
  cases found with
  | none => exact setUp_none_of_read read
  | some level => exact congrArg Except.ok (configure_eq state level)

theorem orCritical_eq_getD_iff (found : Option Int) :
    orCritical found = found.getD LogLevel.critical ↔ found ≠ some 0 := by
  cases found with
  | none => simp [orCritical]
  | some level =>
      by_cases zero : level = 0
      · subst zero
        decide
      · simp [orCritical, zero]

/-- Where the environment is read, both ways leave one handler, and they leave the same log
unless the environment names level zero. Then the log without a level is critical and
short, and the log with the level that was looked up is at zero and detailed. -/
theorem setUp_agrees_unless_zero (state : LogState) (named : Option String)
    (read : ∀ problem, LogLevel.parseVariable named ≠ .error problem) :
    ∃ plain lookedUp, state.setUp none named = .ok plain ∧
      state.setUpFromEnvironment named = .ok lookedUp ∧
      plain.handlers.length = 1 ∧ lookedUp.handlers.length = 1 ∧
      (plain = lookedUp ↔ ∀ text, named = some text → ¬ LogLevel.NamesZero text) ∧
      ∀ text, named = some text → LogLevel.NamesZero text →
        plain = ⟨LogLevel.critical, [shortPattern]⟩ ∧ lookedUp = ⟨0, [detailedPattern]⟩ := by
  cases parsed : LogLevel.parseVariable named with
  | error problem => exact absurd parsed (read problem)
  | ok found =>
      have zero_iff : ∀ text, named = some text → (LogLevel.NamesZero text ↔ found = some 0) := by
        intro text isText
        subst isText
        have parsedText : LogLevel.parse text = .ok found := parsed
        rw [← LogLevel.parse_eq_zero_iff, parsedText, Except.ok.injEq]
      have noZero_iff :
          found ≠ some 0 ↔ ∀ text, named = some text → ¬ LogLevel.NamesZero text := by
        cases named with
        | none =>
            cases parsed
            simp
        | some text => simp [zero_iff]
      refine ⟨_, _, setUp_none_of_read parsed, setUpFromEnvironment_of_read parsed, rfl, rfl, ?_, ?_⟩
      · rw [← noZero_iff, ← orCritical_eq_getD_iff]
        constructor
        · intro same
          exact congrArg LogState.level same
        · intro same
          rw [same]
      · intro text isText isZero
        rw [(zero_iff text isText).mp isZero]
        decide

/-- A name in small letters, with blanks around it, on a log that has two handlers. -/
theorem setUp_agrees_on_warn :
    let state : LogState := ⟨7, ["a", "a"]⟩
    (∀ problem, LogLevel.parseVariable (some " warn ") ≠ .error problem) ∧
      state.setUp none (some " warn ") = .ok ⟨30, [shortPattern]⟩ ∧
      state.setUp none (some " warn ") = state.setUpFromEnvironment (some " warn ") := by
  intro state
  have parsed : LogLevel.parseVariable (some " warn ") = .ok (some 30) := by decide +kernel
  have read : ∀ problem, LogLevel.parseVariable (some " warn ") ≠ .error problem := by
    simp [parsed]
  have plain : state.setUp none (some " warn ") = .ok ⟨30, [shortPattern]⟩ := by decide +kernel
  rcases setUp_agrees_unless_zero state (some " warn ") read with
    ⟨left, right, isLeft, isRight, -, -, same_iff, -⟩
  refine ⟨read, plain, ?_⟩
  rw [isLeft, isRight, same_iff.mpr]
  intro text isText isZero
  cases isText
  rw [← LogLevel.parse_eq_zero_iff] at isZero
  exact absurd isZero (by decide +kernel)

/-- The two ways differ where the environment names level zero. -/
theorem setUp_differs_at_zero :
    let state : LogState := ⟨LogLevel.warning, []⟩
    state.setUp none (some "0") = .ok ⟨50, [shortPattern]⟩ ∧
      state.setUpFromEnvironment (some "0") = .ok ⟨0, [detailedPattern]⟩ := by
  decide +kernel

end LogState

end TaggedCatalog
