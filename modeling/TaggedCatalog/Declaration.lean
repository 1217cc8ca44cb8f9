import TaggedCatalog.Text.CodePoint

/-! # Declarations

What a source of declarations yields: one record per class, tagged or not. Where a
class is found is known by texts of characters; what its author says about it may be
any text. -/

namespace TaggedCatalog

/-- The tag that puts a class into the catalog, as written by its author. -/
structure Marker where
  name : CodeText
  /-- Options, separated by commas. -/
  options : CodeText := []
deriving DecidableEq, Repr

/-- A class seen by a source. -/
structure Declaration where
  /-- Module and class path, joined by dots. -/
  qualifiedName : String
  packageName : String
  sourceFile : String
  doc : CodeText := []
  marker : Option Marker := none
deriving DecidableEq, Repr

end TaggedCatalog
