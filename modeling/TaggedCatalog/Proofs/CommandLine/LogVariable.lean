import TaggedCatalog.Proofs.CommandLine.MessageOptions
import TaggedCatalog.Proofs.Log.LevelReading

/-! # The variable that names the level of the log

Every run looks at the variable once its options are in order. A text that is read, be
it as a level or as none, decides which messages are logged and nothing else. A text that
is refused ends the run before its command is begun. -/

namespace TaggedCatalog

namespace LogState

/-- Setting the log up from the environment fails where the variable is refused. -/
theorem setUpFromEnvironment_eq_error_iff (state : LogState) (named : Option String)
    (problem : NumeralProblem) :
    state.setUpFromEnvironment named = .error problem ↔
      LogLevel.parseVariable named = .error problem := by
  rw [setUpFromEnvironment]
  cases found : LogLevel.parseVariable named with
  | error other => simp
  | ok level =>
      cases level with
      | none => simp [setUp, found, Except.map]
      | some level => simp [setUp]

theorem exists_setUpFromEnvironment_eq_ok (state : LogState) {named : Option String}
    (read : ∀ problem, LogLevel.parseVariable named ≠ .error problem) :
    ∃ next, state.setUpFromEnvironment named = .ok next := by
  cases result : state.setUpFromEnvironment named with
  | ok next => exact ⟨next, rfl⟩
  | error problem =>
      exact absurd ((state.setUpFromEnvironment_eq_error_iff named problem).mp result) (read problem)

end LogState

/-- Surroundings in which the variable has another value, or none. -/
def Surroundings.withLogLevel (surroundings : Surroundings) (value : Option String) :
    Surroundings :=
  { surroundings with environment := { surroundings.environment with logLevel := value } }

namespace CommandLine

/-! ## What a run does -/

/-- What is left to do once a run is prepared. -/
inductive Task where
  | nothing
  | command (chosen : Command) (rest : List String)

def Task.run (surroundings : Surroundings) (context : CommandContext) : Task → RunOutcome
  | nothing => runNothing surroundings.tree context.console
  | command chosen rest => runCommand surroundings context rest chosen

/-- A run that is prepared with these options and then does its task. -/
def preparedRun (surroundings : Surroundings) (mode : ColorMode) (front : Arguments GroupOption)
    (task : Task) : RunOutcome :=
  match prepare surroundings mode front with
  | .error stop => .stopped surroundings.tree "" stop
  | .ok context => task.run surroundings context

/-- Arguments are turned down, or ask for help, whatever is around them; or they lead to a
run that is prepared. -/
theorem run_cases (line : List String) :
    (∃ ending : FileTree → RunOutcome, ∀ surroundings, run surroundings line =
      ending surroundings.tree) ∨
    ∃ mode front task, ∀ surroundings, run surroundings line =
      preparedRun surroundings mode front task := by
  simp only [run]
  split
  · rename_i problem taken
    exact .inl ⟨fun tree => refuse tree .group problem, fun _ => rfl⟩
  · rename_i front taken
    split
    · exact .inl ⟨fun tree => .helped tree .group, fun _ => rfl⟩
    · split
      · rename_i message noMode
        exact .inl ⟨fun tree => .mistaken tree .group (invalidValue "--color" message), fun _ => rfl⟩
      · rename_i mode colored
        split
        · exact .inr ⟨mode, front, .nothing, fun _ => rfl⟩
        · rename_i name rest others
          split
          · exact .inl ⟨fun tree => .mistaken tree .group
              ("No such command " ++ Text.quoted name ++ "."), fun _ => rfl⟩
          · rename_i chosen known
            exact .inr ⟨mode, front, .command chosen rest, fun _ => rfl⟩

/-! ## Preparing a run -/

/-- Two commands that know the same but for the state of the log. -/
structure SameButLog (left right : CommandContext) : Prop where
  console : left.console = right.console
  verbosity : left.verbosity = right.verbosity

/-- How the preparations of two runs compare: both are stopped for the same reason, or
both are ready for the same. -/
inductive PreparedAlike : Except Stop CommandContext → Except Stop CommandContext → Prop
  | stopped (stop : Stop) : PreparedAlike (.error stop) (.error stop)
  | ready {context other : CommandContext} (alike : SameButLog context other) :
      PreparedAlike (.ok context) (.ok other)

section Value

variable (surroundings : Surroundings) (mode : ColorMode) (front : Arguments GroupOption)
  {value : Option String}

theorem prepare_alike (read : ∀ problem, LogLevel.parseVariable value ≠ .error problem) :
    PreparedAlike (prepare (surroundings.withLogLevel value) mode front)
      (prepare (surroundings.withLogLevel none) mode front) := by
  rcases initialLog.exists_setUpFromEnvironment_eq_ok read with ⟨log, isLog⟩
  simp only [prepare, Surroundings.withLogLevel, isLog]
  cases Verbosity.resolve? (front.count .verbose) (front.count .quiet) with
  | none => exact .stopped _
  | some verbosity => exact .ready ⟨rfl, rfl⟩

/-- A variable that is refused stops a run, unless its options are at odds and stop it
first. -/
theorem prepare_of_refused {problem : NumeralProblem}
    (refused : LogLevel.parseVariable value = .error problem) :
    (∀ other, prepare (surroundings.withLogLevel other) mode front =
        .error (.failed .verbosityConflict)) ∨
      prepare (surroundings.withLogLevel value) mode front =
        .error (.unhandled (.logLevel problem)) := by
  have failed := (initialLog.setUpFromEnvironment_eq_error_iff value problem).mpr refused
  simp only [prepare, Surroundings.withLogLevel, failed]
  cases Verbosity.resolve? (front.count .verbose) (front.count .quiet) with
  | none => exact .inl fun _ => rfl
  | some verbosity => exact .inr rfl

end Value

/-! ## Runs with and without the variable -/

theorem runTask_sameButMessages {first second : Surroundings} (same : first.SameSources second)
    {context other : CommandContext} (alike : SameButLog context other) (task : Task) :
    (task.run first context).SameButMessages (task.run second other) := by
  cases task with
  | nothing =>
      apply RunOutcome.SameButMessages.of_eq
      rw [Task.run, Task.run, same.tree, alike.console]
  | command chosen rest =>
      cases chosen with
      | generate => exact runGenerate_sameButMessages same context other rest
      | version =>
          apply RunOutcome.SameButMessages.of_eq
          simp only [Task.run, runCommand, runVersion, same.tree, alike.console, alike.verbosity]

theorem run_sameButMessages_of_read (surroundings : Surroundings) {value : Option String}
    (read : ∀ problem, LogLevel.parseVariable value ≠ .error problem) (line : List String) :
    (run (surroundings.withLogLevel value) line).SameButMessages
      (run (surroundings.withLogLevel none) line) := by
  rcases run_cases line with ⟨ending, runs⟩ | ⟨mode, front, task, runs⟩
  · apply RunOutcome.SameButMessages.of_eq
    rw [runs, runs]
    rfl
  · have prepared := prepare_alike surroundings mode front read
    rw [runs, runs, preparedRun, preparedRun]
    revert prepared
    generalize prepare (surroundings.withLogLevel value) mode front = first
    generalize prepare (surroundings.withLogLevel none) mode front = second
    intro prepared
    cases prepared with
    | stopped stop => exact .of_eq rfl
    | ready alike => exact runTask_sameButMessages ⟨rfl, rfl, rfl, rfl, rfl⟩ alike task

theorem run_of_refused (surroundings : Surroundings) {value : Option String}
    {problem : NumeralProblem} (refused : LogLevel.parseVariable value = .error problem)
    (line : List String) :
    run (surroundings.withLogLevel value) line = run (surroundings.withLogLevel none) line ∨
      run (surroundings.withLogLevel value) line =
        .stopped surroundings.tree "" (.unhandled (.logLevel problem)) := by
  rcases run_cases line with ⟨ending, runs⟩ | ⟨mode, front, task, runs⟩
  · left
    rw [runs, runs]
    rfl
  · rw [runs, runs, preparedRun, preparedRun]
    rcases prepare_of_refused surroundings mode front refused with atOdds | failed
    · left
      rw [atOdds, atOdds]
      rfl
    · right
      rw [failed]
      rfl

end CommandLine

/-! ## Every text -/

namespace LogLevel

/-- A numeral is read as its number, a name as its level, and any other text as no level,
unless it is of digits alone and no numeral. Such a text is refused, and the log is not
set up. Every other text changes only the messages of a run; and one that is refused ends
the run, if it has not ended before. -/
theorem parse_refuses_only_odd_digits (text : String) :
    let word := wordIn text
    (∀ digits, Numeral.Spells word digits → digits.length ≤ Numeral.digitLimit →
      parse text = .ok (some (Nat.ofDigits 10 digits.reverse : Nat))) ∧
    (∀ entry ∈ named, Text.inCapitals word = entry.1.toList → parse text = .ok (some entry.2)) ∧
    ((∀ digits, ¬ Numeral.Spells word digits) →
      (∀ entry ∈ named, Text.inCapitals word ≠ entry.1.toList) → ¬ OddDigits word →
      parse text = .ok none) ∧
    ((∃ problem, parse text = .error problem) ↔ OddDigits word) ∧
    (∀ (state : LogState) (problem : NumeralProblem),
      state.setUpFromEnvironment (some text) = .error problem ↔ parse text = .error problem) ∧
    ∀ (surroundings : Surroundings) (line : List String),
      let outcome := CommandLine.run (surroundings.withLogLevel (some text)) line
      let silent := CommandLine.run (surroundings.withLogLevel none) line
      (¬ OddDigits word → outcome.SameButMessages silent) ∧
      ∀ problem, parse text = .error problem → outcome = silent ∨
        outcome = .stopped surroundings.tree "" (.unhandled (.logLevel problem)) := by
  intro word
  have refused_iff := exists_parse_eq_error_iff text
  refine ⟨?_, ?_, ?_, refused_iff, ?_, ?_⟩
  · intro digits spells short
    exact parse_of_spells spells short
  · intro entry known spelled
    exact parse_of_named known spelled
  · intro noNumber unknown notOdd
    apply parse_of_unknown _ unknown
    rw [Bool.eq_false_iff]
    intro numeral
    rcases exists_spells numeral notOdd with ⟨digits, spells, -⟩
    exact noNumber digits spells
  · intro state problem
    exact state.setUpFromEnvironment_eq_error_iff (some text) problem
  · intro surroundings line outcome silent
    refine ⟨?_, ?_⟩
    · intro notOdd
      apply CommandLine.run_sameButMessages_of_read
      intro problem refused
      exact notOdd (refused_iff.mp ⟨problem, refused⟩)
    · intro problem refused
      have refusedVariable : parseVariable (some text) = .error problem := refused
      exact CommandLine.run_of_refused surroundings refusedVariable line

/-- A superscript is a digit that no numeral is written with, and a run ends with it. -/
theorem parse_refuses_superscript :
    let surroundings : Surroundings :=
      { tree := { workingDirectory := ["work"], files := [], directories := [] }
        reader := Toml.read
        compile := Exclusion.compile
        lookup := .empty }
    let outcome := CommandLine.run (surroundings.withLogLevel (some "²")) ["version"]
    let silent := CommandLine.run (surroundings.withLogLevel none) ["version"]
    parse "²" = .error (.invalid "²") ∧ silent.exitCode = 0 ∧ outcome.exitCode = 1 ∧
      outcome.unhandled = some (.logLevel (.invalid "²")) := by
  decide +kernel

end LogLevel

end TaggedCatalog
