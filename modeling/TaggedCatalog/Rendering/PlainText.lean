import TaggedCatalog.Rendering.Printer

/-! # The catalog as plain text

An index block is the key of a group and one indented name per entry. A
description stands between lines of equal signs: the name, the indented options,
a line of hyphens, the description, and where the class comes from. -/

namespace TaggedCatalog.PlainText

def entrySeparator : String := "================"

def headerSeparator : String := "----------------"

def renderGroup (key : String) (entries : List Entry) : List CodeText :=
  Printer.line key :: entries.map fun entry => Printer.line (" " ++ entry.name)

def renderEntry (entry : Entry) : List CodeText :=
  Printer.line entrySeparator ::
    Printer.line entry.name ::
    (entry.options.map fun option => Printer.line ("  " ++ option)) ++
    [Printer.line headerSeparator,
      entry.description,
      Printer.line entry.qualifiedName,
      Printer.line entry.sourceFile,
      Printer.line ""]

def printer : Printer where
  indexStart := []
  indexEnd := []
  descriptionsStart := []
  descriptionsEnd := []
  group := renderGroup
  entry := renderEntry

end TaggedCatalog.PlainText
