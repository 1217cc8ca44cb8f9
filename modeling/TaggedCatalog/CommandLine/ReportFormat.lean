import TaggedCatalog.Text.LetterCase

/-! # Report formats

The layout of the version report, chosen by a name without regard to case. -/

namespace TaggedCatalog

inductive ReportFormat where
  | text
  | markdown
deriving DecidableEq, Repr

namespace ReportFormat

def name : ReportFormat → String
  | text => "text"
  | markdown => "markdown"

def all : List ReportFormat := [text, markdown]

def ofName? (value : String) : Option ReportFormat :=
  all.find? fun format => format.name.toList == Text.inSmallLetters value.toList

def invalidMessage (value : String) : String :=
  "'" ++ value ++ "' is not one of: text, markdown"

example (format : ReportFormat) : ofName? format.name = some format := by cases format <;> decide

end ReportFormat

end TaggedCatalog
