import TaggedCatalog.PathName

/-! # Module names

The module that a source file holds, named after its path below a source root:
the components joined by dots, the last one without its extension. A file named
`__init__` stands for the package that it lies in. -/

namespace TaggedCatalog

structure ModuleName where
  name : String
  package : String
deriving DecidableEq, Repr

namespace ModuleName

def initName : String := "__init__"

def dotted (components : List String) : String := Text.joinStrings "." components

/-- The name of a module from the components of its path, extension removed. -/
def ofComponents (components : List String) : ModuleName :=
  if components.getLast? = some initName then
    ⟨dotted components.dropLast, dotted components.dropLast⟩
  else
    ⟨dotted components, dotted components.dropLast⟩

/-- The components of a path with the extension of the last one removed. -/
def components? (path : PathName) : Option (List String) :=
  path.fileName?.map fun name =>
    path.components.dropLast ++ [String.ofList (PathName.stem name.toList)]

/-- The name of the module in a file; a path without a last name has none. -/
def ofPath? (path : PathName) : Option ModuleName := (components? path).map ofComponents

end ModuleName

end TaggedCatalog
