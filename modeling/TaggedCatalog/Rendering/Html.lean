import TaggedCatalog.Rendering.Printer

/-! # The catalog as an HTML fragment

The index is a definition list. Every name in it links to its description, and
the heading of every description links back. Names, options and descriptions
are markup of their authors and are written as they are. -/

namespace TaggedCatalog.Html

/-- The item of an entry in the index. -/
def indexItem (name : CodeText) : CodeText :=
  "<li id='pkg_" ++ name ++ "'><a href='#" ++ name ++ "'>" ++ name ++ "</a>"

/-- The heading of a description. -/
def heading (name : CodeText) : CodeText :=
  "<h3 id='" ++ name ++ "'><a href='#pkg_" ++ name ++ "'>" ++ name ++ "</a></h3>"

def renderGroup (key : String) (entries : List Entry) : List CodeText :=
  Printer.line ("<dt>" ++ key ++ "</dt>") ::
    Printer.line "<dd><ul>" ::
    (entries.map fun entry => Printer.line (indexItem entry.name)) ++
    [Printer.line "</ul></dd>"]

def renderEntry (entry : Entry) : List CodeText :=
  Printer.line (heading entry.name) ::
    Printer.line ("<p>" ++ entry.description ++ "</p>") ::
    Printer.line "<ul>" ::
    (entry.options.map fun option => Printer.line ("<li>" ++ option)) ++
    [Printer.line "</ul>",
      Printer.line "<ul>",
      Printer.line ("<li>" ++ entry.qualifiedName),
      Printer.line ("<li>" ++ entry.sourceFile),
      Printer.line "</ul>"]

def printer : Printer where
  indexStart := [Printer.line "<dl>"]
  indexEnd := [Printer.line "</dl>"]
  descriptionsStart := []
  descriptionsEnd := []
  group := renderGroup
  entry := renderEntry

end TaggedCatalog.Html
