import TaggedCatalog.Proofs.FileTree.ImpossibleNames
import TaggedCatalog.Proofs.Settings.Discovery
import TaggedCatalog.Toml.Document

/-! # Loading settings from any file

Whatever is at a path, loading it gives a table: the one that its text describes, or the
empty one and a complaint in the log. Two things are not complained about but stop the
run: bytes that are no text, and a path that no file can have. How a text describes a
table does not matter for this. -/

namespace TaggedCatalog.SettingsFile

variable (reader : TableReader) {tree : FileTree} {path : PathName}

/-! ## One file -/

/-- Why a file is not loaded at all. -/
inductive Refused (tree : FileTree) (path : PathName) : SettingsFailure → Prop
  | notText {bytes : List UInt8} (isRead : tree.read path = .ok bytes)
      (noText : ∀ text, Text.encodeUtf8 text ≠ bytes) : Refused tree path (.notText path)
  | notPath (impossible : path.Impossible) : Refused tree path (.notPath path)

theorem refused_of_isRead {bytes : List UInt8} (isRead : tree.read path = .ok bytes)
    (failure : SettingsFailure) :
    Refused tree path failure ↔ Text.decodeUtf8 bytes = none ∧ failure = .notText path := by
  constructor
  · intro refused
    cases refused with
    | notText isReadToo noText =>
        cases isRead.symm.trans isReadToo
        exact ⟨Text.decodeUtf8_eq_none_iff.mpr noText, rfl⟩
    | notPath impossible =>
        rw [(tree.read_eq_nullCharacter_iff path).mpr impossible] at isRead
        cases isRead
  · rintro ⟨noText, rfl⟩
    exact .notText isRead (Text.decodeUtf8_eq_none_iff.mp noText)

theorem refused_of_problem {problem : AccessProblem} (stopped : tree.read path = .error problem)
    (failure : SettingsFailure) :
    Refused tree path failure ↔ problem = .nullCharacter ∧ failure = .notPath path := by
  constructor
  · intro refused
    cases refused with
    | notText isRead noText =>
        rw [stopped] at isRead
        cases isRead
    | notPath impossible =>
        rw [(tree.read_eq_nullCharacter_iff path).mpr impossible] at stopped
        cases stopped
        exact ⟨rfl, rfl⟩
  · rintro ⟨rfl, rfl⟩
    exact .notPath ((tree.read_eq_nullCharacter_iff path).mp stopped)

theorem value_loadTable_eq_error_iff (failure : SettingsFailure) :
    (loadTable reader tree path).value = .error failure ↔ Refused tree path failure := by
  rw [loadTable]
  split
  · rename_i stopped
    simp [refused_of_problem stopped, Logged.pure, eq_comm]
  · rename_i problem possible stopped
    simp only [reduceCtorEq, false_iff, refused_of_problem stopped, not_and]
    intro isNull
    exact absurd isNull possible
  · rename_i bytes isRead
    rw [refused_of_isRead isRead]
    split
    · rename_i noText
      simp [noText, Logged.pure, eq_comm]
    · rename_i text isText
      simp only [isText, reduceCtorEq, false_and, iff_false]
      split <;> rintro ⟨⟩

theorem loadTable_of_describes {table : Toml.Table} (describes : Describes reader tree path table) :
    loadTable reader tree path = ⟨.ok table, []⟩ := by
  rcases describes with ⟨bytes, text, isRead, isText, isTable⟩
  simp [loadTable, isRead, isText, isTable, Logged.pure]

/-- A file that is neither described nor refused is complained about once. -/
theorem exists_loadTable_eq_complaint (undescribed : ∀ table, ¬ Describes reader tree path table)
    (accepted : ∀ failure, ¬ Refused tree path failure) :
    ∃ message, loadTable reader tree path = ⟨.ok [], [⟨.error, message⟩]⟩ := by
  rw [loadTable]
  split
  · rename_i stopped
    exact absurd (.notPath ((tree.read_eq_nullCharacter_iff path).mp stopped)) (accepted _)
  · exact ⟨_, rfl⟩
  · rename_i bytes isRead
    split
    · rename_i noText
      exact absurd (.notText isRead (Text.decodeUtf8_eq_none_iff.mp noText)) (accepted _)
    · rename_i text isText
      split
      · rename_i table isTable
        exact absurd ⟨bytes, text, isRead, isText, isTable⟩ (undescribed table)
      · exact ⟨_, rfl⟩

/-! ## The file of a run -/

theorem value_loadSettings_eq_error_iff (failure : SettingsFailure) :
    (loadSettings reader tree path).value = .error failure ↔ Refused tree path failure := by
  rw [← value_loadTable_eq_error_iff reader, value_loadSettings]
  cases (loadTable reader tree path).value <;> simp [Except.map]

theorem value_explicit_eq_error_iff (failure : SettingsFailure) :
    (loadMerged reader tree (.explicit path)).value = .error failure ↔
      Refused tree path failure := by
  rw [← value_loadSettings_eq_error_iff reader, value_loadMerged_explicit]
  cases (loadSettings reader tree path).value <;> simp [Except.map]

/-- Looking for a file fails only where a shared one has to be loaded and is refused. -/
theorem value_discover_eq_error_iff (directory : PathName) (failure : SettingsFailure) :
    (discover reader tree directory).value = .error failure ↔
      tree.isFile (directory.joinText ownName) = false ∧
        tree.isFile (directory.joinText sharedName) = true ∧
          Refused tree (directory.joinText sharedName) failure := by
  cases own : tree.isFile (directory.joinText ownName) with
  | true => simp [value_discover_own own]
  | false =>
      cases shared : tree.isFile (directory.joinText sharedName) with
      | true =>
          rw [value_discover_shared own shared, ← value_loadSettings_eq_error_iff reader]
          cases (loadSettings reader tree (directory.joinText sharedName)).value <;>
            simp [Except.map]
      | false => simp [value_discover_neither own shared]

/-- What is found in a directory fails as its file does when it is named. -/
theorem Agreement.eq_error_iff {discovered named : Except SettingsFailure SettingsLayer}
    (agreement : Agreement reader tree path discovered named) (failure : SettingsFailure) :
    discovered = .error failure ↔ named = .error failure := by
  cases agreement <;> simp

/-- The file that a choice leads to, whether it can be loaded or not. -/
def consulted? (tree : FileTree) : ConfigChoice → Option PathName
  | .ignore => none
  | .explicit path => some path
  | .discover directory => fileIn? tree directory

theorem value_loadMerged_eq_error_iff (choice : ConfigChoice) (failure : SettingsFailure) :
    (loadMerged reader tree choice).value = .error failure ↔
      ∃ file, consulted? tree choice = some file ∧ Refused tree file failure := by
  cases choice with
  | ignore => exact iff_of_false (by rintro ⟨⟩) (by rintro ⟨file, ⟨⟩, -⟩)
  | explicit path => simp [consulted?, value_explicit_eq_error_iff]
  | discover directory =>
      cases own : tree.isFile (directory.joinText ownName) with
      | true =>
          rw [(agreement_own own).eq_error_iff, value_explicit_eq_error_iff]
          simp [consulted?, fileIn?, own]
      | false =>
          cases shared : tree.isFile (directory.joinText sharedName) with
          | true =>
              rw [(agreement_shared own shared).eq_error_iff, value_explicit_eq_error_iff]
              simp [consulted?, fileIn?, own, shared]
          | false =>
              rw [value_loadMerged_discover, value_discover_neither own shared]
              simp [Except.bind, consulted?, fileIn?, own, shared]

/-! ## All of it -/

/-- Loading a file gives the table that it describes, or the empty one and one complaint;
it fails only where the file is refused, and so does everything that loads a file. -/
theorem load_fails_only_if_refused (reader : TableReader) (tree : FileTree) :
    (∀ path,
      (∀ table, Describes reader tree path table → loadTable reader tree path = ⟨.ok table, []⟩) ∧
      ((∀ table, ¬ Describes reader tree path table) → (∀ failure, ¬ Refused tree path failure) →
        ∃ message, loadTable reader tree path = ⟨.ok [], [⟨.error, message⟩]⟩) ∧
      ∀ failure,
        (loadTable reader tree path).value = .error failure ↔ Refused tree path failure) ∧
    (∀ directory failure, (discover reader tree directory).value = .error failure ↔
      tree.isFile (directory.joinText ownName) = false ∧
        tree.isFile (directory.joinText sharedName) = true ∧
          Refused tree (directory.joinText sharedName) failure) ∧
    (∀ choice failure, (loadMerged reader tree choice).value = .error failure ↔
      ∃ file, consulted? tree choice = some file ∧ Refused tree file failure) := by
  refine ⟨?_, ?_, ?_⟩
  · intro path
    refine ⟨?_, ?_, ?_⟩
    · intro table describes
      exact loadTable_of_describes reader describes
    · intro undescribed accepted
      exact exists_loadTable_eq_complaint reader undescribed accepted
    · intro failure
      exact value_loadTable_eq_error_iff reader failure
  · intro directory failure
    exact value_discover_eq_error_iff reader directory failure
  · intro choice failure
    exact value_loadMerged_eq_error_iff reader choice failure

/-- A shared file that is no text stops whatever loads it, and nothing is logged. -/
theorem load_stopped_by_no_text :
    let tree : FileTree :=
      { workingDirectory := ["work"]
        files := [(["work", "pyproject.toml"], { bytes := [0xff] })]
        directories := [] }
    let directory := PathName.ofText "/work"
    let path := PathName.ofText "/work/pyproject.toml"
    let loaded := loadTable Toml.read tree path
    loaded.value.toOption = none ∧ loaded.records = [] ∧
      (discover Toml.read tree directory).value = .error (.notText path) ∧
      (loadMerged Toml.read tree (.discover directory)).value.toOption = none ∧
      (loadMerged Toml.read tree (.explicit path)).value.toOption = none := by
  decide +kernel

end TaggedCatalog.SettingsFile
