import TaggedCatalog.CommandLine.Run
import TaggedCatalog.Proofs.CommandLine.AllOrNothing
import TaggedCatalog.Proofs.CommandLine.ArgumentReading
import TaggedCatalog.Toml.Document

/-! # Options that only change messages

The options in front of the command, the variables about colour and the terminal
decide which messages a run writes and how they look. Two runs of the command that
renders the catalog which differ in nothing else end alike: with the same exit code,
the same standard output and the same files. -/

namespace TaggedCatalog

/-- What a run learns about colour from around it. -/
structure ColorSigns where
  forceColor : Option String := none
  noColor : Option String := none
  isTerminal : Bool := false

def Surroundings.withSigns (surroundings : Surroundings) (signs : ColorSigns) : Surroundings :=
  { surroundings with
    environment :=
      { surroundings.environment with
        forceColor := signs.forceColor
        noColor := signs.noColor }
    isTerminal := signs.isTerminal }

/-- Two runs that end alike but for what they say on standard error. -/
structure RunOutcome.SameButMessages (left right : RunOutcome) : Prop where
  exitCode : left.exitCode = right.exitCode
  out : left.written.out = right.written.out
  tree : left.tree = right.tree
  unhandled : left.unhandled = right.unhandled

theorem RunOutcome.SameButMessages.of_eq {left right : RunOutcome} (equal : left = right) :
    left.SameButMessages right := by
  subst equal
  exact ⟨rfl, rfl, rfl, rfl⟩

/-- Two surroundings that a catalog is made from in the same way. -/
structure Surroundings.SameSources (left right : Surroundings) : Prop where
  tree : left.tree = right.tree
  library : left.library = right.library
  reader : left.reader = right.reader
  compile : left.compile = right.compile
  lookup : left.lookup = right.lookup

/-! ## The command -/

section SameSources

variable {first second : Surroundings} (same : first.SameSources second)

include same

namespace Generate

theorem steps_eq_of_sameSources (request : GenerateRequest) :
    steps first request = steps second request := by
  rcases first with ⟨tree, library, environment, isTerminal, reader, compile, lookup⟩
  rcases second with ⟨_, _, otherEnvironment, otherTerminal, _, _, _⟩
  rcases same with ⟨rfl, rfl, rfl, rfl, rfl⟩
  rfl

/-- What a command knows from the options in front of it shows in its messages only. -/
theorem run_sameButMessages (context other : CommandContext) (request : GenerateRequest) :
    (run first context request).SameButMessages (run second other request) := by
  have sameSteps := steps_eq_of_sameSources same request
  cases result : (steps second request).value with
  | error stop =>
      rw [run_of_error context (sameSteps ▸ result), run_of_error other result, same.tree]
      cases stop <;> exact ⟨rfl, rfl, rfl, rfl⟩
  | ok delivered =>
      obtain ⟨settings, delivery⟩ := delivered
      have done : (steps first request).value = .ok (settings, delivery) := sameSteps ▸ result
      obtain ⟨exitCode, out, tree, unhandled⟩ := run_of_ok context done
      obtain ⟨otherExitCode, otherOut, otherTree, otherUnhandled⟩ := run_of_ok other result
      exact ⟨exitCode.trans otherExitCode.symm, out.trans otherOut.symm, tree.trans otherTree.symm,
        unhandled.trans otherUnhandled.symm⟩

end Generate

namespace CommandLine

theorem runGenerate_sameButMessages (context other : CommandContext) (arguments : List String) :
    (runGenerate first context arguments).SameButMessages
      (runGenerate second other arguments) := by
  rw [runGenerate, runGenerate, same.tree]
  cases Arguments.take generateRules true arguments with
  | error problem => exact .of_eq rfl
  | ok taken =>
      dsimp only
      split
      · exact .of_eq rfl
      · cases (taken.last? .config).bind (configFileProblem? second.tree) with
        | some message => exact .of_eq rfl
        | none => exact Generate.run_sameButMessages same context other _

end CommandLine

end SameSources

namespace CommandLine

/-! ## The options in front of the command -/

/-- Arguments that the program takes as options in front of the command that renders
the catalog and what is behind it: no help is asked for, the colour mode is one, and
messages are not to be both more and fewer. -/
structure Fronted (line rest : List String) (front : Arguments GroupOption) (mode : ColorMode) :
    Prop where
  taken : Arguments.take groupRules false line = .ok front
  command : front.others = "generate" :: rest
  noHelp : front.has .help = false
  colored : colorMode front = .ok mode
  oneWay : front.count .verbose = 0 ∨ front.count .quiet = 0

/-- The options in front of the command, whatever they are, are in order. -/
def Accepts (line rest : List String) : Prop := ∃ front mode, Fronted line rest front mode

theorem run_of_fronted {line rest : List String} {front : Arguments GroupOption}
    {mode : ColorMode} (fronted : Fronted line rest front mode) (surroundings : Surroundings) :
    run surroundings line =
      match prepare surroundings mode front with
      | .error stop => .stopped surroundings.tree "" stop
      | .ok context => runGenerate surroundings context rest := by
  simp only [run, fronted.taken, fronted.noHelp, fronted.colored, fronted.command]
  rfl

theorem exists_resolve?_eq_some {more fewer : Nat} (oneWay : more = 0 ∨ fewer = 0) :
    ∃ level, Verbosity.resolve? more fewer = some level := by
  rw [Verbosity.resolve?]
  split
  · omega
  · split <;> exact ⟨_, rfl⟩

/-- Preparing a run fails only for the level of the log. -/
theorem prepare_of_oneWay (surroundings : Surroundings) (mode : ColorMode)
    {front : Arguments GroupOption}
    (oneWay : front.count .verbose = 0 ∨ front.count .quiet = 0) :
    ∃ console verbosity, prepare surroundings mode front =
      match initialLog.setUpFromEnvironment surroundings.environment.logLevel with
      | .error problem => .error (.unhandled (.logLevel problem))
      | .ok log => .ok { console, verbosity, log } := by
  obtain ⟨level, resolved⟩ := exists_resolve?_eq_some oneWay
  simp only [prepare, resolved]
  exact ⟨_, _, rfl⟩

theorem run_sameButMessages_of_fronted {rest firstLine secondLine : List String}
    {firstFront secondFront : Arguments GroupOption} {firstMode secondMode : ColorMode}
    (surroundings : Surroundings) (first second : ColorSigns)
    (fronted : Fronted firstLine rest firstFront firstMode)
    (frontedToo : Fronted secondLine rest secondFront secondMode) :
    (run (surroundings.withSigns first) firstLine).SameButMessages
      (run (surroundings.withSigns second) secondLine) := by
  obtain ⟨console, verbosity, prepared⟩ :=
    prepare_of_oneWay (surroundings.withSigns first) firstMode fronted.oneWay
  obtain ⟨otherConsole, otherVerbosity, preparedToo⟩ :=
    prepare_of_oneWay (surroundings.withSigns second) secondMode frontedToo.oneWay
  rw [run_of_fronted fronted, run_of_fronted frontedToo, prepared, preparedToo]
  simp only [Surroundings.withSigns]
  cases initialLog.setUpFromEnvironment surroundings.environment.logLevel with
  | error problem => exact .of_eq rfl
  | ok log => exact runGenerate_sameButMessages ⟨rfl, rfl, rfl, rfl, rfl⟩ _ _ rest

/-! ## Every setting in words -/

/-- So many requests for more messages, or so many for fewer. -/
inductive MessageRequest where
  | more (count : Nat)
  | fewer (count : Nat)

/-- What can be asked for in front of the command. -/
structure FrontOptions where
  messages : MessageRequest := .more 0
  color : Option ColorMode := none
  noColor : Bool := false

namespace MessageRequest

def words : MessageRequest → List String
  | more count => .replicate count "-v"
  | fewer count => .replicate count "-q"

def options : MessageRequest → List (GroupOption × String)
  | more count => .replicate count (.verbose, "")
  | fewer count => .replicate count (.quiet, "")

theorem spells_words (request : MessageRequest) :
    Arguments.Spells groupRules request.words request.options := by
  cases request with
  | more count => exact .replicate (.of_takeOption? (by decide) fun rest => rfl) count
  | fewer count => exact .replicate (.of_takeOption? (by decide) fun rest => rfl) count

end MessageRequest

namespace FrontOptions

def words (front : FrontOptions) : List String :=
  front.messages.words ++ (front.color.toList.flatMap fun mode => ["--color", mode.name]) ++
    if front.noColor then ["--no-color"] else []

def options (front : FrontOptions) : List (GroupOption × String) :=
  front.messages.options ++ (front.color.toList.map fun mode => (.color, mode.name)) ++
    if front.noColor then [(.noColor, "")] else []

theorem spells_words (front : FrontOptions) :
    Arguments.Spells groupRules front.words front.options := by
  refine (front.messages.spells_words.append ?_).append ?_
  · cases front.color with
    | none => exact .nil
    | some mode => exact .of_takeOption? (by decide) fun rest => rfl
  · cases front.noColor with
    | false => exact .nil
    | true => exact .of_takeOption? (by decide) fun rest => rfl

def read (front : FrontOptions) (rest : List String) : Arguments GroupOption :=
  .withOptions front.options { others := "generate" :: rest }

theorem take_words (front : FrontOptions) (rest : List String) :
    Arguments.take groupRules false (front.words ++ "generate" :: rest) = .ok (front.read rest) := by
  have command : Arguments.take groupRules false ("generate" :: rest) =
      .ok { others := "generate" :: rest } := by
    rw [Arguments.take_cons, if_neg (by decide)]
    rfl
  rw [front.spells_words, command]
  rfl

def values (front : FrontOptions) : GroupOption → List String
  | .verbose => match front.messages with | .more count => .replicate count "" | .fewer _ => []
  | .quiet => match front.messages with | .more _ => [] | .fewer count => .replicate count ""
  | .color => front.color.toList.map ColorMode.name
  | .noColor => if front.noColor then [""] else []
  | .help => []

theorem values_read (front : FrontOptions) (rest : List String) (key : GroupOption) :
    (front.read rest).values key = front.values key := by
  have ofOptions : (front.read rest).values key =
      (front.options.filter fun option => option.1 == key).map (·.2) := by
    simp [read, Arguments.withOptions, Arguments.values]
  obtain ⟨messages, color, noColor⟩ := front
  rw [ofOptions]
  cases messages <;> cases color <;> cases noColor <;> cases key <;>
    simp [options, MessageRequest.options, values]

theorem fronted_words (front : FrontOptions) (rest : List String) :
    Fronted (front.words ++ "generate" :: rest) rest (front.read rest)
      (front.color.getD .auto) where
  taken := front.take_words rest
  command := rfl
  noHelp := by
    rw [Arguments.has, values_read]
    rfl
  colored := by
    rw [colorMode, Arguments.last?, values_read, values]
    cases front.color with
    | none => rfl
    | some mode => cases mode <;> rfl
  oneWay := by
    rw [Arguments.count, Arguments.count, values_read, values_read, values, values]
    cases front.messages with
    | more count => exact .inr rfl
    | fewer count => exact .inl rfl

end FrontOptions

/-- Whatever is asked for in front of the command is accepted; and two runs whose options
in front of the command are accepted, however they are written and whatever else tells
them about colour, end alike but for their messages. -/
theorem run_generate_sameButMessages (surroundings : Surroundings) (rest : List String) :
    (∀ front : FrontOptions, Accepts (front.words ++ "generate" :: rest) rest) ∧
      ∀ (first second : ColorSigns) (firstLine secondLine : List String),
        Accepts firstLine rest → Accepts secondLine rest →
          (run (surroundings.withSigns first) firstLine).SameButMessages
            (run (surroundings.withSigns second) secondLine) := by
  refine ⟨?_, ?_⟩
  · intro front
    exact ⟨_, _, front.fronted_words rest⟩
  · rintro first second firstLine secondLine ⟨firstFront, firstMode, fronted⟩
      ⟨secondFront, secondMode, frontedToo⟩
    exact run_sameButMessages_of_fronted surroundings first second fronted frontedToo

/-- A loud run in colour and a quiet one write the same catalog, and only the loud one
says something about it. -/
theorem run_generate_loud_and_quiet :
    let surroundings : Surroundings :=
      { tree :=
          { workingDirectory := ["work"]
            files := [(["work", "src", "a.py"],
              { bytes := Text.encodeUtf8 "@command('x')\nclass A:\n    pass\n" })]
            directories := [] }
        reader := Toml.read
        compile := Exclusion.compile
        lookup := .empty }
    let loud : ColorSigns := { forceColor := some "1" }
    let quiet : ColorSigns := { noColor := some "", isTerminal := true }
    let loudRun := run (surroundings.withSigns loud) ["-v", "-v", "generate", "src"]
    let quietRun := run (surroundings.withSigns quiet) ["-q", "--color", "never", "generate", "src"]
    loudRun.SameButMessages quietRun ∧ loudRun.written.out ≠ "" ∧
      loudRun.written.err ≠ quietRun.written.err := by
  intro surroundings loud quiet loudRun quietRun
  obtain ⟨accepted, same⟩ := run_generate_sameButMessages surroundings ["src"]
  refine ⟨same loud quiet _ _ (accepted { messages := .more 2 })
    (accepted { messages := .fewer 1, color := some .never }), ?_⟩
  decide +kernel

end CommandLine

end TaggedCatalog
