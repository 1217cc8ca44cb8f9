import TaggedCatalog.FileTree
import TaggedCatalog.Settings.Table
import TaggedCatalog.Text.Utf8

/-! # Settings from a file

A file that cannot be opened and one that is not well formed are logged and count
as empty tables; a file that is not text and a path that no file can have stop the
run. How a text becomes a table is left open, so that everything here holds for any
notation. -/

namespace TaggedCatalog

/-- Reads the table that a text describes, if it is well formed. -/
abbrev TableReader := String → Option Toml.Table

/-- Why settings cannot be loaded. -/
inductive SettingsFailure where
  | notText (path : PathName)
  /-- A path that no file can have. -/
  | notPath (path : PathName)
deriving DecidableEq, Repr

namespace SettingsFile

open Toml

/-- The table in a file. -/
def loadTable (reader : TableReader) (tree : FileTree) (path : PathName) :
    Logged (Except SettingsFailure Table) :=
  match tree.read path with
  | .error .nullCharacter => .pure (.error (.notPath path))
  | .error problem =>
      ⟨.ok [], [⟨.error, "Error loading TOML from " ++ path.text ++ ": " ++
        problem.message path.text⟩]⟩
  | .ok bytes =>
      match Text.decodeUtf8 bytes with
      | none => .pure (.error (.notText path))
      | some text =>
          match reader (String.ofList (Text.normalizeLineEnds text.toList)) with
          | some table => .pure (.ok table)
          | none => ⟨.ok [], [⟨.error, "Error decoding TOML from " ++ path.text⟩]⟩

/-- The file name of a table that is shared with other tools. -/
def sharedName : String := "pyproject.toml"

/-- The file name of a table of its own. -/
def ownName : String := "cmdcatalog.toml"

/-- The settings in the table of a file: the whole table, or the part of a shared
table that is meant. -/
def settingsPart (path : PathName) (table : Table) : Logged (Option Table) :=
  if path.fileName = sharedName then
    match ((table.get? "tool").bind Value.table?).bind fun tools =>
        (tools.get? "cmdcatalog").bind Value.table? with
    | some part => .pure (some part)
    | none => ⟨none, [⟨.debug, "No [tool.cmdcatalog] section in " ++ path.text⟩]⟩
  else .pure (some table)

/-- The settings in a file, if it has any. -/
def loadSettings (reader : TableReader) (tree : FileTree) (path : PathName) :
    Logged (Except SettingsFailure (Option Table)) := do
  match ← loadTable reader tree path with
  | .error failure => return .error failure
  | .ok table => return .ok (← settingsPart path table)

/-- The file that a run started in a directory takes its settings from. A shared
file counts only if it has settings. -/
def discover (reader : TableReader) (tree : FileTree) (directory : PathName) :
    Logged (Except SettingsFailure (Option PathName)) := do
  let own := directory.joinText ownName
  let shared := directory.joinText sharedName
  if tree.isFile own then return .ok (some own)
  else if tree.isFile shared then
    match ← loadSettings reader tree shared with
    | .error failure => return .error failure
    | .ok none => return .ok none
    | .ok (some part) => return .ok (if part.isEmpty then none else some shared)
  else return .ok none

/-- The layer in a file, if it has settings. -/
def layer (reader : TableReader) (tree : FileTree) (path : PathName) :
    Logged (Except SettingsFailure (Option SettingsLayer)) := do
  Logged.write .debug ("Creating MutableConfig from TOML config: " ++ path.text)
  match ← loadSettings reader tree path with
  | .error failure => return .error failure
  | .ok none => return .ok none
  | .ok (some part) => return .ok (some (← SettingsTable.layer (some path) part))

end SettingsFile

/-- Which configuration file to read. -/
inductive ConfigChoice where
  | ignore
  | explicit (path : PathName)
  | discover (directory : PathName)
deriving DecidableEq, Repr

namespace SettingsFile

/-- The defaults under the layer of the chosen file. -/
def loadMerged (reader : TableReader) (tree : FileTree) (choice : ConfigChoice) :
    Logged (Except SettingsFailure SettingsLayer) := do
  let base := SettingsTable.defaultLayer
  let chosen ←
    match choice with
    | .ignore => return .ok base
    | .explicit path => pure (.ok (some path))
    | .discover directory => discover reader tree directory
  match chosen with
  | .error failure => return .error failure
  | .ok none =>
      Logged.write .debug "No config file found"
      return .ok base
  | .ok (some path) =>
      match ← layer reader tree path with
      | .error failure => return .error failure
      | .ok none => return .ok base
      | .ok (some found) => return .ok (base.merge found)

end SettingsFile

end TaggedCatalog
