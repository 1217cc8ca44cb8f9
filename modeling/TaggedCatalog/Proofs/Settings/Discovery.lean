import TaggedCatalog.Settings.File

/-! # A configuration file that is found and one that is named

A run takes its settings from a file in its directory, or from a file that is named.
Naming the file that is in the directory makes no difference, with one exception: a
shared file counts as found only if its part of the table holds something, while a
file that is named counts as read as soon as it has that part. -/

namespace TaggedCatalog

namespace PathName

theorem fileName_joinText {name : String} (single : ofText name = ⟨.relative, [name]⟩)
    (directory : PathName) : (directory.joinText name).fileName = name := by
  simp [joinText, single, join, fileName, fileName?]

end PathName

namespace SettingsFile

open Toml

variable (reader : TableReader) (tree : FileTree)

theorem fileName_own (directory : PathName) :
    (directory.joinText ownName).fileName = ownName :=
  PathName.fileName_joinText (by decide +kernel) directory

theorem fileName_shared (directory : PathName) :
    (directory.joinText sharedName).fileName = sharedName :=
  PathName.fileName_joinText (by decide +kernel) directory

/-! ## What a file holds -/

/-- A file can be read, is text, and its text describes a table. -/
def Describes (file : PathName) (table : Table) : Prop :=
  ∃ bytes text, tree.read file = .ok bytes ∧ Text.decodeUtf8 bytes = some text ∧
    reader (String.ofList (Text.normalizeLineEnds text.toList)) = some table

/-- A shared file that has the part of the table that is meant, with nothing in it. -/
def HasEmptyPart (file : PathName) : Prop :=
  file.fileName = sharedName ∧ ∃ table tools : Table, Describes reader tree file table ∧
    table.get? "tool" = some (.table tools) ∧ tools.get? "cmdcatalog" = some (.table [])

variable {reader tree}

theorem value_loadTable_of_describes {file : PathName} {table : Table}
    (describes : Describes reader tree file table) :
    (loadTable reader tree file).value = .ok table := by
  obtain ⟨bytes, text, isRead, isText, isTable⟩ := describes
  simp [loadTable, isRead, isText, isTable, Logged.pure]

/-- A table that is not empty comes from what the file describes, and not from a
problem with it. -/
theorem describes_of_value_loadTable {file : PathName} {table : Table}
    (loaded : (loadTable reader tree file).value = .ok table) (notEmpty : table ≠ []) :
    Describes reader tree file table := by
  rw [loadTable] at loaded
  split at loaded
  · cases loaded
  · cases loaded
    exact absurd rfl notEmpty
  · rename_i bytes isRead
    split at loaded
    · cases loaded
    · rename_i text isText
      split at loaded
      · rename_i found isTable
        cases loaded
        exact ⟨bytes, text, isRead, isText, isTable⟩
      · cases loaded
        exact absurd rfl notEmpty

theorem value_settingsPart_shared {file : PathName} (shared : file.fileName = sharedName)
    (table : Table) :
    (settingsPart file table).value =
      ((table.get? "tool").bind Value.table?).bind fun tools =>
        (tools.get? "cmdcatalog").bind Value.table? := by
  rw [settingsPart, if_pos shared]
  split <;> simp [Logged.pure, *]

theorem table?_eq_some_iff (value : Value) (entries : Table) :
    value.table? = some entries ↔ value = .table entries := by
  cases value <;> simp [Value.table?]

theorem value_loadSettings (reader : TableReader) (tree : FileTree) (file : PathName) :
    (loadSettings reader tree file).value =
      (loadTable reader tree file).value.map fun table => (settingsPart file table).value := by
  rw [loadSettings, Logged.value_bind]
  cases (loadTable reader tree file).value <;> rfl

theorem loadSettings_eq_empty_iff {file : PathName} (shared : file.fileName = sharedName) :
    (loadSettings reader tree file).value = .ok (some []) ↔ HasEmptyPart reader tree file := by
  rw [value_loadSettings]
  constructor
  · intro loaded
    cases found : (loadTable reader tree file).value with
    | error failure =>
        rw [found] at loaded
        cases loaded
    | ok table =>
        simp only [found, Except.map, value_settingsPart_shared shared, Except.ok.injEq,
          Option.bind_eq_some_iff, table?_eq_some_iff] at loaded
        obtain ⟨tools, ⟨_, tool, rfl⟩, _, part, rfl⟩ := loaded
        have notEmpty : table ≠ [] := by
          rintro rfl
          cases tool
        exact ⟨shared, table, tools, describes_of_value_loadTable found notEmpty, tool, part⟩
  · rintro ⟨-, table, tools, describes, tool, part⟩
    simp [value_loadTable_of_describes describes, Except.map, value_settingsPart_shared shared,
      tool, part, Value.table?]

/-! ## What is loaded -/

/-- The defaults under the settings of a file, if it has any. -/
def overDefaults (file : PathName) : Option Table → SettingsLayer
  | none => SettingsTable.defaultLayer
  | some part => SettingsTable.defaultLayer.merge (SettingsTable.layer (some file) part).value

theorem overDefaults_empty (file : PathName) :
    overDefaults file (some []) = { SettingsTable.defaultLayer with configFiles := [file] } := rfl

theorem value_loadMerged_explicit (reader : TableReader) (tree : FileTree) (file : PathName) :
    (loadMerged reader tree (.explicit file)).value =
      (loadSettings reader tree file).value.map (overDefaults file) := by
  simp only [loadMerged, layer, Logged.value_bind, Logged.value_pure]
  cases (loadSettings reader tree file).value with
  | error failure => rfl
  | ok part => cases part <;> rfl

/-- A file that is discovered is read as if it were named. -/
theorem value_loadMerged_discover (reader : TableReader) (tree : FileTree)
    (directory : PathName) :
    (loadMerged reader tree (.discover directory)).value =
      (discover reader tree directory).value.bind fun
        | none => .ok SettingsTable.defaultLayer
        | some file => (loadMerged reader tree (.explicit file)).value := by
  simp only [loadMerged, Logged.value_bind, Logged.value_pure]
  cases (discover reader tree directory).value with
  | error failure => rfl
  | ok found => cases found <;> rfl

section Directory

variable {directory : PathName}

theorem value_discover_own (own : tree.isFile (directory.joinText ownName) = true) :
    (discover reader tree directory).value = .ok (some (directory.joinText ownName)) := by
  rw [discover, if_pos own]
  rfl

theorem value_discover_shared (notOwn : tree.isFile (directory.joinText ownName) = false)
    (shared : tree.isFile (directory.joinText sharedName) = true) :
    (discover reader tree directory).value =
      (loadSettings reader tree (directory.joinText sharedName)).value.map fun part =>
        (part.filter fun table => !table.isEmpty).map fun _ => directory.joinText sharedName := by
  simp only [discover, notOwn, shared, Bool.false_eq_true, if_true, if_false, Logged.value_bind]
  cases (loadSettings reader tree (directory.joinText sharedName)).value with
  | error failure => rfl
  | ok part =>
      cases part with
      | none => rfl
      | some table => cases table <;> rfl

theorem value_discover_neither (notOwn : tree.isFile (directory.joinText ownName) = false)
    (notShared : tree.isFile (directory.joinText sharedName) = false) :
    (discover reader tree directory).value = .ok none := by
  simp [discover, notOwn, notShared]

end Directory

/-! ## Both ways compared -/

/-- The file that a directory has for its settings: the one of its own, or else the
shared one. -/
def fileIn? (tree : FileTree) (directory : PathName) : Option PathName :=
  if tree.isFile (directory.joinText ownName) then some (directory.joinText ownName)
  else if tree.isFile (directory.joinText sharedName) then some (directory.joinText sharedName)
  else none

/-- How what is found in a directory compares with what its file gives when it is
named: the same failure, the same settings, or, for a part with nothing in it, the same
settings but for the file that counts as read. -/
inductive Agreement (reader : TableReader) (tree : FileTree) (file : PathName) :
    Except SettingsFailure SettingsLayer → Except SettingsFailure SettingsLayer → Prop
  | failure (failure : SettingsFailure) :
      Agreement reader tree file (.error failure) (.error failure)
  | same (layer : SettingsLayer) (notEmpty : ¬ HasEmptyPart reader tree file) :
      Agreement reader tree file (.ok layer) (.ok layer)
  | emptyPart (layer : SettingsLayer) (empty : HasEmptyPart reader tree file)
      (unread : layer.configFiles = []) :
      Agreement reader tree file (.ok layer) (.ok { layer with configFiles := [file] })

theorem agreement_of_eq {file : PathName} {discovered named : Except SettingsFailure SettingsLayer}
    (same : discovered = named) (notEmpty : ¬ HasEmptyPart reader tree file) :
    Agreement reader tree file discovered named := by
  subst same
  cases discovered with
  | error failure => exact .failure failure
  | ok layer => exact .same layer notEmpty

theorem agreement_own {directory : PathName}
    (own : tree.isFile (directory.joinText ownName) = true) :
    Agreement reader tree (directory.joinText ownName)
      (loadMerged reader tree (.discover directory)).value
      (loadMerged reader tree (.explicit (directory.joinText ownName))).value := by
  rw [value_loadMerged_discover, value_discover_own own]
  apply agreement_of_eq rfl
  rintro ⟨isShared, -⟩
  rw [fileName_own] at isShared
  exact absurd isShared (by decide)

theorem agreement_shared {directory : PathName}
    (notOwn : tree.isFile (directory.joinText ownName) = false)
    (shared : tree.isFile (directory.joinText sharedName) = true) :
    Agreement reader tree (directory.joinText sharedName)
      (loadMerged reader tree (.discover directory)).value
      (loadMerged reader tree (.explicit (directory.joinText sharedName))).value := by
  have empty_iff : (loadSettings reader tree (directory.joinText sharedName)).value =
      .ok (some []) ↔ HasEmptyPart reader tree (directory.joinText sharedName) :=
    loadSettings_eq_empty_iff (fileName_shared directory)
  rw [value_loadMerged_discover, value_discover_shared notOwn shared, value_loadMerged_explicit]
  by_cases empty : HasEmptyPart reader tree (directory.joinText sharedName)
  · rw [empty_iff.mpr empty]
    simp only [Except.map, overDefaults_empty]
    exact .emptyPart SettingsTable.defaultLayer empty rfl
  · apply agreement_of_eq _ empty
    rw [← empty_iff] at empty
    cases loaded : (loadSettings reader tree (directory.joinText sharedName)).value with
    | error failure => rfl
    | ok part =>
        cases part with
        | none => rfl
        | some table =>
            cases table with
            | nil => exact absurd loaded empty
            | cons entry rest =>
                change (loadMerged reader tree (.explicit (directory.joinText sharedName))).value = _
                rw [value_loadMerged_explicit, loaded]

/-- Settings that are discovered in a directory agree with those of its file when it is
named; in a directory without such a file, the defaults are discovered. -/
theorem loadMerged_discover_agrees (reader : TableReader) (tree : FileTree)
    (directory : PathName) :
    let discovered := (loadMerged reader tree (.discover directory)).value
    match fileIn? tree directory with
    | none => discovered = .ok SettingsTable.defaultLayer
    | some file =>
        Agreement reader tree file discovered (loadMerged reader tree (.explicit file)).value := by
  intro discovered
  cases own : tree.isFile (directory.joinText ownName) with
  | true =>
      simp only [fileIn?, own, if_true]
      exact agreement_own own
  | false =>
      cases shared : tree.isFile (directory.joinText sharedName) with
      | true =>
          simp only [fileIn?, own, shared, if_true, Bool.false_eq_true, if_false]
          exact agreement_shared own shared
      | false =>
          simp only [fileIn?, own, shared, Bool.false_eq_true, if_false]
          rw [show discovered = _ from value_loadMerged_discover reader tree directory,
            value_discover_neither own shared]
          rfl

-- The one exception: the part is there and empty.
example :
    let reader : TableReader := fun _ => some [("tool", .table [("cmdcatalog", .table [])])]
    let tree : FileTree :=
      { workingDirectory := ["work"]
        files := [(["work", "pyproject.toml"], { bytes := [] })]
        directories := [] }
    let file := PathName.ofText "/work/pyproject.toml"
    let filesRead (choice : ConfigChoice) :=
      (loadMerged reader tree choice).value.toOption.map SettingsLayer.configFiles
    filesRead (.discover (.ofText "/work")) = some [] ∧ filesRead (.explicit file) = some [file] := by
  decide +kernel

end SettingsFile

end TaggedCatalog
