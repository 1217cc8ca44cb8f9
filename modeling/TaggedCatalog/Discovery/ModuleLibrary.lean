import TaggedCatalog.Discovery.ModuleInspection
import TaggedCatalog.Text.Quoted

/-! # Libraries of modules

A library holds the modules that can be imported. Some of them fail when they are, and
some end the run. A module that is not in the library is looked for in its package, so that
the package, its package and so on have to be there. -/

namespace TaggedCatalog

/-- What importing a module gives. -/
inductive LibraryModule where
  | loads (module : ModuleObject) (isPackage : Bool)
  /-- Importing fails for the given reason. -/
  | fails (name reason : String)
  /-- Importing ends the run. -/
  | exits (name : String) (exit : ImportExit)
deriving DecidableEq, Repr

namespace LibraryModule

def name : LibraryModule → String
  | loads module _ => module.name
  | fails name _ => name
  | exits name _ => name

end LibraryModule

structure ModuleLibrary where
  table : ClassTable := []
  modules : List LibraryModule := []
deriving DecidableEq, Repr

namespace ModuleLibrary

def find? (library : ModuleLibrary) (name : String) : Option LibraryModule :=
  library.modules.reverse.find? fun module => module.name == name

def notFound (name : String) : String := "No module named " ++ Text.quoted name

/-- Imports a module, going at most so many packages up, and says whether it is a package. -/
def loadWithin (library : ModuleLibrary) :
    Nat → String → Except ModuleInspection.ImportProblem (ModuleObject × Bool)
  | 0, name => .error (.failed (notFound name))
  | fuel + 1, name =>
      match library.find? name with
      | some (.loads module isPackage) => .ok (module, isPackage)
      | some (.fails _ reason) => .error (.failed reason)
      | some (.exits _ exit) => .error (.exited exit)
      | none =>
          let package := ModuleObject.beforeLastDot name
          if package.isEmpty then .error (.failed (notFound name))
          else
            match library.loadWithin fuel package with
            | .error problem => .error problem
            | .ok (_, true) => .error (.failed (notFound name))
            | .ok (_, false) =>
                .error (.failed
                  (notFound name ++ "; " ++ Text.quoted package ++ " is not a package"))

/-- Imports a module by its full name. -/
def load (library : ModuleLibrary) : ModuleInspection.Importer := fun name =>
  if name.isEmpty then .error (.failed "Empty module name")
  else if name.toList.head? = some '.' then
    .error (.failed ("the 'package' argument is required to perform a relative import for " ++
      Text.quoted name))
  else (library.loadWithin (name.length + 1) name).map (·.1)

def inspect (library : ModuleLibrary) (names : List String) : SourceOutcome :=
  ModuleInspection.run library.table library.load names

end ModuleLibrary

end TaggedCatalog
