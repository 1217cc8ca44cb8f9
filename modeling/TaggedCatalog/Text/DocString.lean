import TaggedCatalog.Text.CodePoint
import TaggedCatalog.Text.Lines

/-! # Documentation strings

The documentation of a class is written indented. Reading it expands the tabs,
takes the common margin off all lines but the first, and drops the empty lines
at both ends. -/

namespace TaggedCatalog.Text

def tabWidth : Nat := 8

/-- Replaces tabs by the spaces that lead to the next multiple of the tab width,
from the given column on. -/
def expandTabs : Nat → CodeText → CodeText
  | _, [] => []
  | column, .char '\t' :: rest =>
      let width := tabWidth - column % tabWidth
      List.replicate width (.char ' ') ++ expandTabs (column + width) rest
  | column, c :: rest =>
      c :: expandTabs (if c = .lineFeed || c = .char '\r' then 0 else column + 1) rest

/-- The margin of a line that is not blank. -/
def marginOf? (line : CodeText) : Option Nat :=
  let content := line.dropWhile CodePoint.isBlank
  if content.isEmpty then none else some (line.length - content.length)

/-- The least margin among the lines that are not blank. -/
def commonMargin? (lines : List CodeText) : Option Nat := (lines.filterMap marginOf?).min?

def cleanLines : List CodeText → List CodeText
  | [] => []
  | first :: rest =>
      let margin := (commonMargin? rest).getD 0
      first.dropWhile CodePoint.isBlank :: rest.map (List.drop margin)

def cleanDoc (doc : CodeText) : CodeText :=
  let lines := cleanLines (splitOnChar .lineFeed (expandTabs 0 doc))
  joinWith .lineFeed ((dropTrailingEmpty lines).dropWhile List.isEmpty)

example : expandTabs 0 "a\tb\n\tc" = "a       b\n        c" := by decide

end TaggedCatalog.Text
