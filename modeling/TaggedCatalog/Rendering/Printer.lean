import TaggedCatalog.Catalog
import TaggedCatalog.Rendering.Transcript
import TaggedCatalog.Text.Quoted

/-! # Printers

A printer says how each part of a catalog is written, and in which bits. The catalog is
always walked in the same way: the index, group by group, and then the descriptions,
entry by entry. -/

namespace TaggedCatalog

structure Printer where
  indexStart : List CodeText
  indexEnd : List CodeText
  descriptionsStart : List CodeText
  descriptionsEnd : List CodeText
  /-- A block of the index. -/
  group : String → List Entry → List CodeText
  /-- A full description. -/
  entry : Entry → List CodeText

namespace Printer

/-- A text and the line end behind it. -/
def line (text : CodeText) : CodeText := text ++ [.lineFeed]

/-- What is logged before a group is written. -/
def groupRecord (group : Group) : Record where
  severity := .trace
  message := "Rendering index group " ++ Text.quoted group.key ++ " (" ++
    toString group.entries.length ++ " command(s))"

def groupSteps (printer : Printer) (group : Group) : List RenderStep :=
  .log (groupRecord group) :: (printer.group group.key group.entries).map .write

def index (printer : Printer) (groups : List Group) : List RenderStep :=
  printer.indexStart.map .write ++ groups.flatMap printer.groupSteps ++
    printer.indexEnd.map .write

def descriptions (printer : Printer) (entries : List Entry) : List RenderStep :=
  (printer.descriptionsStart ++ entries.flatMap printer.entry ++ printer.descriptionsEnd).map .write

/-- How the whole catalog is written. -/
def steps (printer : Printer) (catalog : Catalog) : List RenderStep :=
  printer.index catalog.groups ++ printer.descriptions catalog.entries

/-- The whole catalog as text. -/
def render (printer : Printer) (catalog : Catalog) : CodeText :=
  (printer.steps catalog).flatMap RenderStep.text

theorem flatMap_text_map_write (bits : List CodeText) :
    (bits.map RenderStep.write).flatMap RenderStep.text = bits.flatten := by
  rw [List.flatMap_map, ← List.flatMap_id]
  rfl

theorem flatMap_text_groupSteps (printer : Printer) (group : Group) :
    (printer.groupSteps group).flatMap RenderStep.text =
      (printer.group group.key group.entries).flatten := by
  rw [groupSteps, List.flatMap_cons, flatMap_text_map_write]
  rfl

/-- The text is that of the parts, one after the other. -/
theorem render_eq (printer : Printer) (catalog : Catalog) :
    printer.render catalog =
      printer.indexStart.flatten ++
        (catalog.groups.flatMap fun group => (printer.group group.key group.entries).flatten) ++
        printer.indexEnd.flatten ++
        (printer.descriptionsStart.flatten ++
          (catalog.entries.flatMap fun entry => (printer.entry entry).flatten) ++
          printer.descriptionsEnd.flatten) := by
  simp only [render, steps, index, descriptions, List.map_append, List.map_flatMap,
    List.flatMap_append, List.flatMap_assoc, flatMap_text_map_write, flatMap_text_groupSteps]

end Printer

end TaggedCatalog
