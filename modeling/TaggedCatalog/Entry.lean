import TaggedCatalog.Declaration
import TaggedCatalog.Description
import TaggedCatalog.OptionList

/-! # Catalog entries

A tagged declaration gives one entry. -/

namespace TaggedCatalog

structure Entry where
  name : CodeText
  options : List CodeText
  qualifiedName : String
  packageName : String
  sourceFile : String
  doc : CodeText
deriving DecidableEq, Repr

namespace Entry

def description (entry : Entry) : CodeText := Description.ofText entry.doc

def ofMarked (declaration : Declaration) (marker : Marker) : Entry where
  name := marker.name
  options := OptionList.parse marker.options
  qualifiedName := declaration.qualifiedName
  packageName := declaration.packageName
  sourceFile := declaration.sourceFile
  doc := declaration.doc

/-- The entry of a declaration, if it is tagged. -/
def ofDeclaration? (declaration : Declaration) : Option Entry :=
  declaration.marker.map (ofMarked declaration)

/-- The refusal of a declaration without a tag. -/
def untaggedMessage (declaration : Declaration) : String :=
  "Declaration " ++ declaration.qualifiedName ++ " carries no command marker"

/-- The entries of the tagged declarations, in their order. -/
def extract (declarations : List Declaration) : List Entry :=
  declarations.filterMap ofDeclaration?

end Entry

end TaggedCatalog
