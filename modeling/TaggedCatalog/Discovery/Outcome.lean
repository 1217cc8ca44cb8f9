import TaggedCatalog.Declaration
import TaggedCatalog.FileTree
import TaggedCatalog.Log.Record

/-! # What a source yields

A source of declarations yields one after the other and may fail on the way. What
it has yielded by then stands. Sources read one after the other are one source. -/

namespace TaggedCatalog

/-- How a module ends the run that imports it: its exit code, and what it leaves on standard
error. -/
structure ImportExit where
  code : UInt8
  words : String := ""
deriving DecidableEq, Repr

/-- Why a source stopped. -/
inductive SourceFailure where
  | rootMissing (root : PathName)
  | unreadable (path : PathName) (problem : AccessProblem)
  | unparsable (path : PathName)
  /-- The marker of a class has no name. -/
  | markerUnnamed (path : PathName) (line : Nat) (marker className : String)
  /-- An argument of the marker is not a plain text. -/
  | markerNotText (path : PathName) (line : Nat) (marker field className : String)
  | notImportable (module reason : String)
  /-- The documentation of a class is no text; the word names what it is. -/
  | docNotText (kind : String)
  /-- A module ended the run while it was imported. -/
  | exited (exit : ImportExit)
deriving DecidableEq, Repr

namespace SourceFailure

def message : SourceFailure → String
  | rootMissing root => "Source root does not exist: " ++ root.text
  | unreadable path problem => "Cannot read " ++ path.text ++ ": " ++ problem.message path.text
  | unparsable path => "Cannot parse " ++ path.text
  | markerUnnamed path line marker className =>
      path.text ++ ":" ++ toString line ++ ": @" ++ marker ++ " on " ++ className ++
        " has no 'name'"
  | markerNotText path line marker field className =>
      path.text ++ ":" ++ toString line ++ ": @" ++ marker ++ " argument " ++ Text.quoted field ++
        " on " ++ className ++ " must be a string literal"
  | notImportable module reason => "Cannot import module " ++ Text.quoted module ++ ": " ++ reason
  | docNotText kind => "'" ++ kind ++ "' object has no attribute 'expandtabs'"
  | exited exit => exit.words

/-- What a failure is about. -/
inductive Kind where
  | notFound
  | parse
  | importing
  | access
  /-- No failure of a source, but of what it has to deal with. -/
  | unexpected
deriving DecidableEq, Repr

def kind : SourceFailure → Kind
  | rootMissing _ => .notFound
  | unreadable _ _ => .access
  | unparsable _ => .parse
  | markerUnnamed _ _ _ _ => .parse
  | markerNotText _ _ _ _ _ => .parse
  | notImportable _ _ => .importing
  | docNotText _ => .unexpected
  | exited _ => .unexpected

/-- The file or directory that a failure is about. -/
def path? : SourceFailure → Option PathName
  | rootMissing root => some root
  | unreadable path _ => some path
  | unparsable path => some path
  | markerUnnamed path _ _ _ => some path
  | markerNotText path _ _ _ _ => some path
  | notImportable _ _ => none
  | docNotText _ => none
  | exited _ => none

end SourceFailure

/-- The declarations that a source has yielded, why it stopped if it failed, and
the records it has logged. -/
structure SourceOutcome where
  declarations : List Declaration := []
  failure : Option SourceFailure := none
  records : List Record := []
deriving DecidableEq, Repr

namespace SourceOutcome

def empty : SourceOutcome := {}

def yield (declaration : Declaration) : SourceOutcome := { declarations := [declaration] }

def fail (failure : SourceFailure) : SourceOutcome := { failure := some failure }

def log (severity : Severity) (message : String) : SourceOutcome :=
  { records := [⟨severity, message⟩] }

/-- One outcome after another: the second counts only if the first did not fail. -/
def andThen (first second : SourceOutcome) : SourceOutcome :=
  if first.failure.isSome then first
  else
    { declarations := first.declarations ++ second.declarations
      failure := second.failure
      records := first.records ++ second.records }

/-- Outcomes one after the other. -/
def sequence : List SourceOutcome → SourceOutcome
  | [] => empty
  | first :: rest => first.andThen (sequence rest)

def ofDeclarations (declarations : List Declaration) : SourceOutcome := { declarations }

end SourceOutcome

end TaggedCatalog
