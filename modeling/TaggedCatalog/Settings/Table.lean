import TaggedCatalog.Log.Record
import TaggedCatalog.Settings.Layer
import TaggedCatalog.Text.Quoted
import TaggedCatalog.Toml.Value

/-! # Settings from a table

A table of settings has a few known keys. Unknown keys and values of the wrong
kind are logged and count for nothing. The output and the source paths are
relative to the directory of the file that the table stands in. -/

namespace TaggedCatalog.SettingsTable

open Toml

/-- Where a table comes from, in words. -/
def originText : Option PathName → String
  | none => "None"
  | some file => file.text

def knownKeys : List String := ["format", "plugin_prefix", "marker", "output", "sources"]

def warning (message : String) : Record := ⟨.warning, message⟩

def unknownKeyRecords (file : Option PathName) (table : Table) : List Record :=
  (table.filter fun entry => !knownKeys.contains entry.1).map fun entry =>
    warning ("Unknown config key " ++ Text.quoted entry.1 ++ " in " ++ originText file)

/-- The text under a key. -/
def textAt (file : Option PathName) (table : Table) (key : String) : Logged (Option String) :=
  match table.get? key with
  | none => .pure none
  | some .nothing => .pure none
  | some (.text value) => .pure (some value)
  | some _ =>
      ⟨none, [warning ("Ignoring non-string value for " ++ Text.quoted key ++ " in " ++
        originText file)]⟩

/-- The list of texts under a key. -/
def textsAt (file : Option PathName) (table : Table) (key : String) : Logged (List String) :=
  match table.get? key with
  | none => .pure []
  | some value =>
      match value.texts? with
      | some texts => .pure texts
      | none =>
          ⟨[], [warning ("Ignoring non-list value for " ++ Text.quoted key ++ " in " ++
            originText file)]⟩

/-- The table of sources. -/
def sourcesOf (file : Option PathName) (table : Table) : Logged Table :=
  match table.get? "sources" with
  | none => .pure []
  | some (.table entries) => .pure entries
  | some _ => ⟨[], [warning ("Ignoring malformed [sources] table in " ++ originText file)]⟩

/-- A path in a table, seen from the directory of its file. -/
def resolve (file : Option PathName) (path : String) : PathName :=
  match file with
  | none => PathName.ofText path
  | some file => file.parent.joinText path

/-- The output in a table. Only a lone dash is standard output. -/
def resolveOutput (file : Option PathName) (output : String) : String :=
  match file with
  | none => output
  | some file => if output = standardOutput then output else (file.parent.joinText output).text

/-- The layer that a table describes. -/
def layer (file : Option PathName) (table : Table) : Logged SettingsLayer := do
  let _ ← (⟨(), unknownKeyRecords file table⟩ : Logged Unit)
  let format ← textAt file table "format"
  let packageStart ← textAt file table "plugin_prefix"
  let marker ← textAt file table "marker"
  let output ← textAt file table "output"
  let sources ← sourcesOf file table
  let paths ← textsAt file sources "paths"
  let modules ← textsAt file sources "modules"
  let exclusions ← textsAt file sources "exclude"
  return {
    format, packageStart, marker
    output := output.map (resolveOutput file)
    sourcePaths := paths.map (resolve file)
    sourceModules := modules
    exclusions
    configFiles := file.toList }

/-- The table of settings that hold where nothing else is said. -/
def defaults : Table :=
  [("format", .text "text"), ("plugin_prefix", .text ""), ("marker", .text defaultMarker),
   ("output", .text standardOutput),
   ("sources", .table [("paths", .list []), ("modules", .list []), ("exclude", .list [])])]

def defaultLayer : SettingsLayer := (layer none defaults).value

example : (layer none defaults).records = [] := by decide +kernel

end TaggedCatalog.SettingsTable
