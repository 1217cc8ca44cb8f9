import TaggedCatalog.Discovery.Outcome
import TaggedCatalog.Terminal.Console

/-! # Failures of a command

A command that fails says why and ends with the exit code of its kind of failure. -/

namespace TaggedCatalog

inductive FailureKind where
  | general
  | usage
  | configuration
  | fileNotFound
  | parse
  | access
  | importing
  | unexpected
deriving DecidableEq, Repr

namespace FailureKind

def exitCode : FailureKind → Nat
  | general => 1
  | usage => 64
  | configuration => 78
  | fileNotFound => 66
  | parse => 65
  | access => 74
  | importing => 1
  | unexpected => 255

/-- The kind of failure that a failing source is for a command. -/
def ofSource : SourceFailure.Kind → FailureKind
  | .notFound => fileNotFound
  | .parse => parse
  | .importing => importing
  | .access => access
  | .unexpected => unexpected

end FailureKind

structure Failure where
  kind : FailureKind
  message : String
deriving DecidableEq, Repr

namespace Failure

def exitCode (failure : Failure) : Nat := failure.kind.exitCode

/-- The failure as a plain line. -/
def line (failure : Failure) : String := "Error: " ++ failure.message ++ "\n"

/-- The failure as a console shows it. -/
def shownOn (failure : Failure) (console : Console) : Written :=
  console.error (console.styled Console.errorStyle failure.message)

/-- Asking for more and for fewer messages at once. -/
def verbosityConflict : Failure :=
  ⟨.usage, "The '--verbose' and '--quiet' options are mutually exclusive."⟩

/-- Naming a configuration file and asking for none. -/
def configConflict : Failure :=
  ⟨.usage, "The '--config' and '--no-config' options are mutually exclusive."⟩

/-- Neither paths nor modules to look at. -/
def nothingToScan : Failure :=
  ⟨.usage, "Nothing to scan: pass PATHS or --module, or configure [sources] in cmdcatalog.toml."⟩

/-- A failing source as a failing command. What is no failure of a source is shown
as the object that it is. -/
def ofSource (failure : SourceFailure) : Failure :=
  let message :=
    match failure.kind with
    | .unexpected =>
        "Unexpected error while collecting declarations: AttributeError(" ++
          Text.quoted failure.message ++ ")"
    | _ => failure.message
  ⟨.ofSource failure.kind, message⟩

end Failure

end TaggedCatalog
