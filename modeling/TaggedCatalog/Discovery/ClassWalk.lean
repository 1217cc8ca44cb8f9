import TaggedCatalog.Discovery.Outcome
import TaggedCatalog.Source.Tree
import TaggedCatalog.Text.DocString

/-! # The classes of a module

Classes are seen directly in a module and directly in other classes, each before
the classes inside it. A class is tagged by the first of its decorators that
calls the marker, by its bare name or as a member of something. The arguments of
the call have to be plain texts, since the code is never run. -/

namespace TaggedCatalog.ClassWalk

open Source

/-- The documentation of a class: its first statement, if that is a plain text. -/
def documentation : List Stmt → CodeText
  | .expression (.text _ value) :: _ => Text.cleanDoc value
  | _ => []

/-- The name under which a decorator calls something. -/
def calledName? : Expr → Option String
  | .name _ word => some word
  | .member _ _ word => some word
  | _ => none

/-- A call of the marker. -/
structure MarkerCall where
  line : Nat
  positional : List Expr
  named : List (Option String × Expr)

def markerCall? (marker : String) : Expr → Option MarkerCall
  | .call line function positional named =>
      if calledName? function = some marker then some ⟨line, positional, named⟩ else none
  | _ => none

/-- The first decorator that calls the marker. -/
def findMarkerCall (marker : String) (decorators : List Expr) : Option MarkerCall :=
  decorators.findSome? (markerCall? marker)

namespace MarkerCall

/-- The fields of a marker, in the order of its positional arguments. -/
def fields : List String := ["name", "options"]

/-- The value bound to a field: the last argument of that name, or else the
positional argument in its place. -/
def argument? (call : MarkerCall) (field : String) : Option Expr :=
  match (call.named.filter fun argument => argument.1 == some field).getLast? with
  | some argument => some argument.2
  | none => ((fields.zip call.positional).find? fun argument => argument.1 == field).map (·.2)

end MarkerCall

/-- What the walk needs to know about the file. -/
structure Place where
  path : PathName
  packageName : String
  marker : String

/-- The text that a field of the marker is given. -/
def fieldText (place : Place) (className : String) (call : MarkerCall) (field : String) :
    Except SourceFailure (Option CodeText) :=
  match call.argument? field with
  | none => .ok none
  | some (.text _ value) => .ok (some value)
  | some value =>
      .error (.markerNotText place.path value.line place.marker field className)

def readMarker (place : Place) (className : String) (call : MarkerCall) :
    Except SourceFailure Marker :=
  match fieldText place className call "name" with
  | .error failure => .error failure
  | .ok none => .error (.markerUnnamed place.path call.line place.marker className)
  | .ok (some name) =>
      match fieldText place className call "options" with
      | .error failure => .error failure
      | .ok options => .ok { name, options := options.getD [] }

/-- The marker of a class, if it is tagged. -/
def markerOf (place : Place) (className : String) (decorators : List Expr) :
    Except SourceFailure (Option Marker) :=
  match findMarkerCall place.marker decorators with
  | none => .ok none
  | some call => (readMarker place className call).map some

/-- The declaration of a class in a scope. -/
def declare (place : Place) (scope className : String) (decorators : List Expr)
    (body : List Stmt) : Except SourceFailure Declaration :=
  (markerOf place className decorators).map fun marker =>
    { qualifiedName := scope ++ className
      packageName := place.packageName
      sourceFile := place.path.text
      doc := documentation body
      marker }

/-- What stands before the names of the classes of a module. -/
def moduleScope (moduleName : String) : String :=
  if moduleName.isEmpty then "" else moduleName ++ "."

mutual

/-- The classes of a body. The scope is what stands before their names. -/
def walkBody (place : Place) (scope : String) : List Stmt → SourceOutcome
  | [] => .empty
  | statement :: rest => (walkStatement place scope statement).andThen (walkBody place scope rest)

def walkStatement (place : Place) (scope : String) : Stmt → SourceOutcome
  | .classDef className decorators body =>
      match declare place scope className decorators body with
      | .error failure => .fail failure
      | .ok declaration =>
          (SourceOutcome.yield declaration).andThen
            (walkBody place (scope ++ className ++ ".") body)
  | _ => .empty

end

end TaggedCatalog.ClassWalk
