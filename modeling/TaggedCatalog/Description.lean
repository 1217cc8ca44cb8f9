import TaggedCatalog.Text.CodePoint
import TaggedCatalog.Text.Lines

/-! # Descriptions

The description of a command is its documentation up to the first tag line.
Every line loses at most one leading space; a line that then starts with `@` is
a tag, and it and all that follows are dropped. -/

namespace TaggedCatalog.Description

/-- The character that starts a tag line. -/
def tagMark : CodePoint := .char '@'

/-- The lines of a documentation text. Empty lines at its end carry nothing and
are dropped, but an empty text is one empty line. -/
def docLines (doc : CodeText) : List CodeText :=
  if doc.isEmpty then [[]]
  else Text.dropTrailingEmpty (Text.splitOnChar .lineFeed (CodeText.withLineFeeds doc))

/-- A line less its first character, if that is a space. -/
def trimLine : CodeText → CodeText
  | .char ' ' :: rest => rest
  | line => line

def isTag (line : CodeText) : Bool := line.head? == some tagMark

/-- The lines of a description: those before the first tag. -/
def keptLines (doc : CodeText) : List CodeText :=
  ((docLines doc).map trimLine).takeWhile fun line => !isTag line

def endLine (line : CodeText) : CodeText := line ++ [.lineFeed]

def ofText (doc : CodeText) : CodeText := (keptLines doc).flatMap endLine

/-- The description of a documentation text that may be missing. -/
def ofDoc : Option CodeText → CodeText
  | none => []
  | some doc => ofText doc

example : keptLines " Sends a ping.\n@since 1.0" = (["Sends a ping."] : List CodeText) := by decide
example : keptLines "a\n\n @t" = (["a", ""] : List CodeText) := by decide

end TaggedCatalog.Description
