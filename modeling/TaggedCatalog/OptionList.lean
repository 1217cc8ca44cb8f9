import TaggedCatalog.Text.CodePoint
import TaggedCatalog.Text.Lines

/-! # Option lists

A marker names its options in one text, separated by commas. The text is
stripped as a whole, its tokens are not; empty tokens at the end are dropped. -/

namespace TaggedCatalog.OptionList

def comma : CodePoint := .char ','

def parse (text : CodeText) : List CodeText :=
  let stripped := CodeText.strip text
  if stripped.isEmpty then []
  else Text.dropTrailingEmpty (Text.splitOnChar comma stripped)

example : parse " a,, b ," = (["a", "", " b "] : List CodeText) := by decide
example : parse ",," = [] := by decide

end TaggedCatalog.OptionList
