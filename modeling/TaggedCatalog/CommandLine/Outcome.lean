import TaggedCatalog.CommandLine.Failure
import TaggedCatalog.CommandLine.HelpPage
import TaggedCatalog.Discovery.ModuleLibrary
import TaggedCatalog.Discovery.PatternCompiler
import TaggedCatalog.Log.Paint
import TaggedCatalog.Log.Setup
import TaggedCatalog.Settings.File
import TaggedCatalog.Source.Lookup

/-! # What a run sees and what it leaves

A run sees the files, the modules that can be imported, three variables of the
environment and whether its output is a terminal, and it is given what reads
configuration files, compiles exclusion patterns and is looked up for source files. It
leaves an exit code, what it has written on standard output and standard error, and the
files as they are then. -/

namespace TaggedCatalog

structure Environment where
  forceColor : Option String := none
  noColor : Option String := none
  logLevel : Option String := none
deriving DecidableEq, Repr

structure Surroundings where
  tree : FileTree
  library : ModuleLibrary := {}
  environment : Environment := {}
  isTerminal : Bool := false
  /-- How configuration files are read. -/
  reader : TableReader
  /-- How exclusion patterns are read. -/
  compile : PatternCompiler
  lookup : Source.Lookup

/-- An error that no command handles. -/
inductive UnhandledError where
  | exclusion (problem : ExclusionProblem)
  | logLevel (problem : NumeralProblem)
  | settings (failure : SettingsFailure)
  /-- An output that no file can have as its name. -/
  | output (path : String)
  /-- A module ended the run while it was imported. -/
  | exited (exit : ImportExit)
  /-- A part of the catalog that is not made of characters. -/
  | unwritable (bit : CodeText)
deriving DecidableEq, Repr

namespace UnhandledError

/-- The exit code that the error leaves. -/
def exitCode : UnhandledError → Nat
  | exited exit => exit.code.toNat
  | _ => 1

/-- What the error leaves on standard error. -/
def words : UnhandledError → String
  | exited exit => exit.words
  | _ => ""

end UnhandledError

/-- Why a run ends early. -/
inductive Stop where
  | failed (failure : Failure)
  | unhandled (error : UnhandledError)
deriving DecidableEq, Repr

structure RunOutcome where
  exitCode : Nat
  written : Written
  tree : FileTree
  unhandled : Option UnhandledError := none
deriving DecidableEq, Repr

namespace RunOutcome

/-- A run that ends well without a change to the files. -/
def done (tree : FileTree) (written : Written) : RunOutcome := ⟨0, written, tree, none⟩

/-- A run that has been stopped: nothing is on standard output and the files are
what they were. -/
def stopped (tree : FileTree) (logged : String) : Stop → RunOutcome
  | .failed failure => ⟨failure.exitCode, { err := logged ++ failure.line }, tree, none⟩
  | .unhandled error => ⟨error.exitCode, { err := logged ++ error.words }, tree, some error⟩

/-- A run that has been stopped while it wrote: what was written by then stands. -/
def brokenOff (tree : FileTree) (written : Written) (bit : CodeText) : RunOutcome :=
  let error := UnhandledError.unwritable bit
  ⟨error.exitCode, written, tree, some error⟩

/-- A run with a mistake in its arguments. -/
def mistaken (tree : FileTree) (page : HelpPage) (message : String) : RunOutcome :=
  ⟨2, { err := page.mistake message }, tree, none⟩

/-- A run with an option that lacks its value or has one too many. -/
def misused (tree : FileTree) (message : String) : RunOutcome :=
  ⟨2, { err := "Error: " ++ message ++ "\n" }, tree, none⟩

def helped (tree : FileTree) (page : HelpPage) : RunOutcome :=
  done tree { out := page.text ++ "\n" }

end RunOutcome

namespace LogState

/-- The lines that records leave on standard error. -/
def lines (state : LogState) (records : List Record) : String :=
  (records.filter fun record => state.writes record.severity.level).foldl
    (fun text record => text ++ LogPaint.plainLine record.severity.level record.message ++ "\n") ""

end LogState

end TaggedCatalog
