import TaggedCatalog.PathName
import TaggedCatalog.Rendering.Format

/-! # Settings in layers

Settings come in layers: the defaults, a configuration file, the command line. A
layer says something about some of the settings, and a later layer has the last
word. Once all layers are merged, the settings are settled, and whatever no layer
has said gets its final value. -/

namespace TaggedCatalog

/-- What one layer says. -/
structure SettingsLayer where
  /-- The name of a catalog format, which may be no format at all. -/
  format : Option String := none
  /-- What stands before the word that introduces a plugin; nothing accepts anything. -/
  packageStart : Option String := none
  /-- The name of the decorator that tags a class. -/
  marker : Option String := none
  /-- The file to write, or `-` for standard output. -/
  output : Option String := none
  sourcePaths : List PathName := []
  sourceModules : List String := []
  exclusions : List String := []
  /-- The configuration files that have been read. -/
  configFiles : List PathName := []
  verbosity : Option Int := none
deriving DecidableEq, Repr

/-- Settled settings. -/
structure Settings where
  format : Format
  packageStart : Option String
  marker : String
  output : String
  sourcePaths : List PathName
  sourceModules : List String
  exclusions : List String
  configFiles : List PathName
  verbosity : Int
deriving DecidableEq, Repr

/-- The output that is no file. -/
def standardOutput : String := "-"

def defaultMarker : String := "command"

namespace SettingsLayer

/-- The upper list, unless it is empty. -/
def preferNonempty {α : Type} (lower upper : List α) : List α :=
  if upper.isEmpty then lower else upper

/-- Puts one layer on top of another. Exclusions and configuration files add up;
of everything else the upper layer's word counts, if it has one. -/
def merge (lower upper : SettingsLayer) : SettingsLayer where
  format := upper.format.or lower.format
  packageStart := upper.packageStart.or lower.packageStart
  marker := upper.marker.or lower.marker
  output := upper.output.or lower.output
  sourcePaths := preferNonempty lower.sourcePaths upper.sourcePaths
  sourceModules := preferNonempty lower.sourceModules upper.sourceModules
  exclusions := lower.exclusions ++ upper.exclusions
  configFiles := lower.configFiles ++ upper.configFiles
  verbosity := upper.verbosity.or lower.verbosity

/-- A text that is there and not empty. -/
def nonempty? (text : Option String) : Option String :=
  text.filter fun found => !found.isEmpty

/-- The final value of every setting. An empty text counts as no text. -/
def settle (layer : SettingsLayer) : Settings where
  format := Format.select layer.format
  packageStart := nonempty? layer.packageStart
  marker := (nonempty? layer.marker).getD defaultMarker
  output := (nonempty? layer.output).getD standardOutput
  sourcePaths := layer.sourcePaths
  sourceModules := layer.sourceModules
  exclusions := layer.exclusions
  configFiles := layer.configFiles
  verbosity := layer.verbosity.getD 0

example : merge {} {} = {} := by decide

end SettingsLayer

namespace Settings

/-- Settled settings as a layer, which says something about everything. -/
def toLayer (settings : Settings) : SettingsLayer where
  format := some settings.format.name
  packageStart := settings.packageStart
  marker := some settings.marker
  output := some settings.output
  sourcePaths := settings.sourcePaths
  sourceModules := settings.sourceModules
  exclusions := settings.exclusions
  configFiles := settings.configFiles
  verbosity := some settings.verbosity

end Settings

/-- What a command line says about the settings. -/
structure SettingsArguments where
  format : Option String := none
  packageStart : Option String := none
  marker : Option String := none
  output : Option String := none
  paths : List String := []
  modules : List String := []
  exclusions : List String := []
  verbosity : Option Int := none
deriving DecidableEq, Repr

namespace SettingsArguments

def toLayer (arguments : SettingsArguments) : SettingsLayer where
  format := arguments.format
  packageStart := arguments.packageStart
  marker := arguments.marker
  output := arguments.output
  sourcePaths := arguments.paths.map PathName.ofText
  sourceModules := arguments.modules
  exclusions := arguments.exclusions
  verbosity := arguments.verbosity

end SettingsArguments

namespace SettingsLayer

def applyArguments (layer : SettingsLayer) (arguments : SettingsArguments) : SettingsLayer :=
  layer.merge arguments.toLayer

end SettingsLayer

end TaggedCatalog
