import TaggedCatalog.CommandLine.Arguments
import TaggedCatalog.CommandLine.Generate
import TaggedCatalog.CommandLine.Version
import TaggedCatalog.Terminal.ColorMode
import TaggedCatalog.Terminal.Verbosity

/-! # Running the program

Options in front of the command are looked at first, then the command has to be
known, then the options take effect, and only then the arguments of the command
are looked at. -/

namespace TaggedCatalog.CommandLine

/-! ## Options -/

inductive GroupOption where
  | verbose
  | quiet
  | color
  | noColor
  | help
deriving DecidableEq, Repr

def groupRules : List (OptionRule GroupOption) :=
  [{ key := .verbose, word := "--verbose", letter := some 'v', takesValue := false },
   { key := .quiet, word := "--quiet", letter := some 'q', takesValue := false },
   { key := .color, word := "--color" },
   { key := .noColor, word := "--no-color", takesValue := false },
   { key := .help, word := "--help", letter := some 'h', takesValue := false }]

inductive GenerateOption where
  | format
  | packageStart
  | marker
  | module
  | exclude
  | output
  | config
  | noConfig
  | help
deriving DecidableEq, Repr

def generateRules : List (OptionRule GenerateOption) :=
  [{ key := .format, word := "--format" },
   { key := .packageStart, word := "--plugin-prefix" },
   { key := .marker, word := "--marker" },
   { key := .module, word := "--module", letter := some 'm' },
   { key := .exclude, word := "--exclude", letter := some 'e' },
   { key := .output, word := "--output", letter := some 'o' },
   { key := .config, word := "--config" },
   { key := .noConfig, word := "--no-config", takesValue := false },
   { key := .help, word := "--help", letter := some 'h', takesValue := false }]

inductive VersionOption where
  | format
  | help
deriving DecidableEq, Repr

def versionRules : List (OptionRule VersionOption) :=
  [{ key := .format, word := "--format" },
   { key := .help, word := "--help", letter := some 'h', takesValue := false }]

/-- What a problem with the arguments of a command leads to. -/
def refuse (tree : FileTree) (page : HelpPage) (problem : ArgumentProblem) : RunOutcome :=
  match problem with
  | .noSuchOption _ => .mistaken tree page problem.message
  | _ => .misused tree problem.message

def invalidValue (name message : String) : String :=
  "Invalid value for '" ++ name ++ "': " ++ message

/-! ## Commands -/

def generateRequest (arguments : Arguments GenerateOption) : GenerateRequest where
  settings :=
    { format := arguments.last? .format
      packageStart := arguments.last? .packageStart
      marker := arguments.last? .marker
      output := arguments.last? .output
      paths := arguments.others
      modules := arguments.values .module
      exclusions := arguments.values .exclude }
  config := arguments.last? .config
  noConfig := arguments.has .noConfig

/-- Why a configuration file cannot be taken. -/
def configFileProblem? (tree : FileTree) (path : String) : Option String :=
  match tree.kindAt path with
  | .file => none
  | .directory => some ("File " ++ Text.quoted path ++ " is a directory.")
  | .absent => some ("File " ++ Text.quoted path ++ " does not exist.")

def runGenerate (surroundings : Surroundings) (context : CommandContext)
    (arguments : List String) : RunOutcome :=
  let tree := surroundings.tree
  match Arguments.take generateRules true arguments with
  | .error problem => refuse tree .generate problem
  | .ok arguments =>
      if arguments.has .help then .helped tree .generate
      else
        match (arguments.last? .config).bind (configFileProblem? tree) with
        | some message => .mistaken tree .generate (invalidValue "--config" message)
        | none => Generate.run surroundings context (generateRequest arguments)

/-- Arguments that a command does not take. -/
def unexpectedArguments (arguments : List String) : String :=
  (if arguments.length = 1 then "Got unexpected extra argument (" else
    "Got unexpected extra arguments (") ++ Text.joinStrings " " arguments ++ ")"

def runVersion (surroundings : Surroundings) (context : CommandContext)
    (arguments : List String) : RunOutcome :=
  let tree := surroundings.tree
  match Arguments.take versionRules true arguments with
  | .error problem => refuse tree .version problem
  | .ok arguments =>
      if arguments.has .help then .helped tree .version
      else
        let format := (arguments.last? .format).map fun value => (value, ReportFormat.ofName? value)
        match format with
        | some (value, none) =>
            .mistaken tree .version (invalidValue "--format" (ReportFormat.invalidMessage value))
        | _ =>
            if arguments.others.isEmpty then
              .done tree (Version.report context.console context.verbosity (format.bind (·.2)))
            else .mistaken tree .version (unexpectedArguments arguments.others)

inductive Command where
  | generate
  | version
deriving DecidableEq, Repr

def Command.ofName? : String → Option Command
  | "generate" => some generate
  | "version" => some version
  | _ => none

def runCommand (surroundings : Surroundings) (context : CommandContext) (arguments : List String) :
    Command → RunOutcome
  | .generate => runGenerate surroundings context arguments
  | .version => runVersion surroundings context arguments

/-- What is shown where no command is given. -/
def runNothing (tree : FileTree) (console : Console) : RunOutcome :=
  .done tree
    (console.print "Hint: use 'cmdcatalog generate [PATHS...]' to render a catalog." ++
      console.print "" ++ console.print HelpPage.group.text)

/-! ## The program -/

/-- The log before it is set up: it writes warnings and has no handler. -/
def initialLog : LogState := ⟨LogLevel.warning, []⟩

/-- Takes the options in front of the command into account. -/
def prepare (surroundings : Surroundings) (mode : ColorMode)
    (arguments : Arguments GroupOption) : Except Stop CommandContext :=
  let environment := surroundings.environment
  match Verbosity.resolve? (arguments.count .verbose) (arguments.count .quiet) with
  | none => .error (.failed .verbosityConflict)
  | some verbosity =>
      match initialLog.setUpFromEnvironment environment.logLevel with
      | .error problem => .error (.unhandled (.logLevel problem))
      | .ok log =>
          let mode := if arguments.has .noColor then .never else mode
          let color := mode.resolve environment.forceColor environment.noColor
            surroundings.isTerminal
          .ok { console := ⟨color⟩, verbosity, log }

/-- The mode that is asked for, or a value that is no mode. -/
def colorMode (arguments : Arguments GroupOption) : Except String ColorMode :=
  match arguments.last? .color with
  | none => .ok .auto
  | some value =>
      match ColorMode.ofName? value with
      | some mode => .ok mode
      | none =>
          .error (Text.quoted value ++ " is not one of " ++
            Text.joinStrings ", " (ColorMode.all.map fun mode => Text.quoted mode.name) ++ ".")

/-- Runs the program on its arguments. -/
def run (surroundings : Surroundings) (arguments : List String) : RunOutcome :=
  let tree := surroundings.tree
  match Arguments.take groupRules false arguments with
  | .error problem => refuse tree .group problem
  | .ok arguments =>
      if arguments.has .help then .helped tree .group
      else
        match colorMode arguments with
        | .error message => .mistaken tree .group (invalidValue "--color" message)
        | .ok mode =>
            match arguments.others with
            | [] =>
                match prepare surroundings mode arguments with
                | .error stop => .stopped tree "" stop
                | .ok context => runNothing tree context.console
            | name :: rest =>
                match Command.ofName? name with
                | none =>
                    .mistaken tree .group ("No such command " ++ Text.quoted name ++ ".")
                | some command =>
                    match prepare surroundings mode arguments with
                    | .error stop => .stopped tree "" stop
                    | .ok context => runCommand surroundings context rest command

end TaggedCatalog.CommandLine
