import TaggedCatalog.Declaration

/-! # Modules as objects

A module that has been imported is a namespace: names bound to values, in order.
Some of the values are classes, which have namespaces of their own. The same
class may be bound many times, and even inside itself, so a class is known by its
number in the list of all classes. -/

namespace TaggedCatalog

/-- The documentation that a class carries. -/
inductive ClassDoc where
  | text (value : CodeText)
  /-- No documentation, or a value that counts as none. -/
  | absent
  /-- A value that is no text; the word names what it is. -/
  | notText (kind : String)
deriving DecidableEq, Repr

/-- A value in a namespace. -/
inductive BoundValue where
  | classAt (index : Nat)
  | other
deriving DecidableEq, Inhabited, Repr

/-- Names bound to values, in the order in which they were first bound. -/
abbrev Namespace := List (String × BoundValue)

namespace Namespace

/-- Binds a name. A name that is bound already keeps its place. -/
def bind (space : Namespace) (name : String) (value : BoundValue) : Namespace :=
  if space.any fun binding => binding.1 == name then
    space.map fun binding => if binding.1 == name then (name, value) else binding
  else space ++ [(name, value)]

/-- The classes bound in a namespace. -/
def classes (space : Namespace) : List Nat :=
  space.filterMap fun binding =>
    match binding.2 with
    | .classAt index => some index
    | .other => none

end Namespace

structure ClassObject where
  name : String
  /-- The module that the class says it comes from. -/
  moduleName : String
  /-- The path of names that leads to the class. -/
  qualifiedName : String
  doc : ClassDoc := .absent
  marker : Option Marker := none
  members : Namespace := []
deriving DecidableEq, Repr

structure ModuleObject where
  name : String
  /-- The package that the module says it is in. -/
  package : Option String := none
  /-- The file that the module was loaded from. -/
  file : String := ""
  members : Namespace := []
deriving DecidableEq, Repr

namespace ModuleObject

/-- What stands before the last dot of a name. -/
def beforeLastDot (name : String) : String :=
  String.ofList (((name.toList.reverse.dropWhile (· != '.')).drop 1).reverse)

def packageName (module : ModuleObject) : String :=
  module.package.getD (beforeLastDot module.name)

end ModuleObject

end TaggedCatalog
