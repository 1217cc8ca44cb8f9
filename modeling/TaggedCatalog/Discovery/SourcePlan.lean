import TaggedCatalog.Discovery.FileScan
import TaggedCatalog.Discovery.ModuleLibrary
import TaggedCatalog.Discovery.PatternCompiler
import TaggedCatalog.Settings.Layer

/-! # Where declarations come from

Settings name paths to scan and modules to inspect. The paths come first. -/

namespace TaggedCatalog

structure SourcePlan where
  scan : Option FileScan
  modules : List String

namespace SourcePlan

/-- The plan in the settings, if they name anything. Exclusions matter only where
there are paths. -/
def ofSettings (compile : PatternCompiler) (lookup : Source.Lookup) (settings : Settings) :
    Except ExclusionProblem (Option SourcePlan) :=
  if settings.sourcePaths.isEmpty then
    .ok (if settings.sourceModules.isEmpty then none else some ⟨none, settings.sourceModules⟩)
  else
    (compile settings.exclusions).map fun isExcluded =>
      some
        { scan := some
            { roots := settings.sourcePaths
              marker := settings.marker
              lookup
              isExcluded }
          modules := settings.sourceModules }

/-- Everything that the plan finds. -/
def run (plan : SourcePlan) (tree : FileTree) (library : ModuleLibrary) : SourceOutcome :=
  .sequence ((plan.scan.map fun scan => scan.run tree).toList ++ [library.inspect plan.modules])

end SourcePlan

end TaggedCatalog
