import TaggedCatalog.Rendering.Format

/-! # Generating a catalog

From a list of declarations to the catalog and how it is written, with the records that
are logged on the way. -/

namespace TaggedCatalog

structure Generation where
  catalog : Catalog
  /-- How the catalog is written. -/
  steps : List RenderStep
deriving DecidableEq, Repr

namespace Generation

/-- What is logged before anything is written. -/
def openingRecords (catalog : Catalog) (format : Format) : List Record :=
  let entryCount := toString catalog.entries.length
  let groupCount := toString catalog.groups.length
  [⟨.debug, "Extracted " ++ entryCount ++ " command(s)"⟩,
   ⟨.debug, "Classified commands into " ++ groupCount ++ " group(s)"⟩,
   ⟨.info, "Rendering " ++ entryCount ++ " command(s) in " ++ groupCount ++ " group(s) as " ++
      format.name⟩]

/-- The catalog of the declarations and how it is written in the given format. -/
def run (start : Option String) (format : Format) (declarations : List Declaration) : Generation :=
  let catalog := Catalog.build start declarations
  { catalog, steps := format.printer.steps catalog }

/-- The text of the catalog. -/
def output (generation : Generation) : CodeText := generation.steps.flatMap RenderStep.text

def runLogged (start : Option String) (format : Format) (declarations : List Declaration) :
    Logged Generation :=
  let generation := run start format declarations
  ⟨generation,
    openingRecords generation.catalog format ++ generation.steps.filterMap RenderStep.record?⟩

end Generation

end TaggedCatalog
