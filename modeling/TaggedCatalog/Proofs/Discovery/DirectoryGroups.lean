import TaggedCatalog.Catalog
import TaggedCatalog.Proofs.Discovery.ClassNesting
import TaggedCatalog.Proofs.Discovery.SequentialRun
import TaggedCatalog.Proofs.GroupKey.Segments

/-! # Directories and groups

The package of a source file is made of the directories that it lies in, whatever the
file itself is called. So the group of a class is found by counting through these
directories, and a directory is in one group as a whole. -/

namespace TaggedCatalog

/-- The path of a file below a root. -/
def PathName.below (directories : List String) (fileName : String) : PathName :=
  ⟨.relative, directories ++ [fileName]⟩

namespace ModuleName

theorem ofPath?_below (directories : List String) (fileName : String) :
    ∃ name, ofPath? (.below directories fileName) = some name ∧
      name.package = dotted directories := by
  refine ⟨ofComponents (directories ++ [String.ofList (PathName.stem fileName.toList)]), ?_, ?_⟩
  · simp [ofPath?, components?, PathName.below, PathName.fileName?, PathName.components]
  · rw [ofComponents]
    split <;> simp

example : (ofPath? (.below ["org", "__init__"] "__init__.py")).map (·.package) =
    some "org.__init__" := by decide +kernel

end ModuleName

namespace GroupKey

/-- A directory for plugins, with one above it and one in it. -/
structure IsPluginDirectory (directories : List String) (index : Nat) : Prop where
  behindFirst : 1 ≤ index
  isPlugin : directories[index]? = some "plugin"
  isFollowed : index + 1 < directories.length

/-- Whether a key is what counting through directories leads to: the one behind the
foremost directory for plugins, or all of them if there is none. -/
inductive IsDirectoryKey (directories : List String) (key : String) : Prop
  | behind {index : Nat} (least : IsLeast {index | IsPluginDirectory directories index} index)
      (follows : directories[index + 1]? = some key)
  | alone (absent : ∀ index, ¬IsPluginDirectory directories index)
      (isPackage : key = ModuleName.dotted directories)

/-- Names that are single segments of a package. -/
def AreSegments (directories : List String) : Prop :=
  ∀ directory ∈ directories, directory ≠ "" ∧ '.' ∉ directory.toList

theorem splitOnChar_dotted {directories : List String} (segments : AreSegments directories)
    (filled : directories ≠ []) :
    Text.splitOnChar '.' (ModuleName.dotted directories).toList =
      directories.map String.toList :=
  Text.splitOnChar_joinStrings rfl filled fun directory member => (segments directory member).2

theorem isPluginPlace_dotted_iff {directories : List String} (segments : AreSegments directories)
    {index : Nat} :
    IsPluginPlace (Text.splitOnChar '.' (ModuleName.dotted directories).toList) index ↔
      IsPluginDirectory directories index := by
  by_cases filled : directories = []
  · subst directories
    constructor
    · intro isPlace
      exact absurd isPlace.two_lt_length (by decide)
    · intro isDirectory
      exact absurd isDirectory.isFollowed (Nat.not_lt_zero _)
  · rw [splitOnChar_dotted segments filled]
    constructor
    · intro isPlace
      refine ⟨isPlace.behindFirst, ?_, by simpa using isPlace.isFollowed⟩
      have isPlugin := isPlace.isPlugin
      rw [List.getElem?_map, Option.map_eq_some_iff] at isPlugin
      rcases isPlugin with ⟨directory, found, same⟩
      rw [found, String.toList_inj.mp same]
    · intro isDirectory
      refine ⟨isDirectory.behindFirst, ?_, by simpa using isDirectory.isFollowed, ?_⟩
      · rw [List.getElem?_map, isDirectory.isPlugin]
        rfl
      · intro other _ empty
        rw [List.getElem?_map, Option.map_eq_some_iff] at empty
        rcases empty with ⟨directory, found, same⟩
        exact (segments directory (List.mem_of_getElem? found)).1 (String.toList_eq_nil_iff.mp same)

theorem isDirectoryKey_derive {directories : List String} (segments : AreSegments directories) :
    IsDirectoryKey directories (derive none (ModuleName.dotted directories)) := by
  have found := foundAmong_afterAnyStart (ModuleName.dotted directories).toList
  have places : ∀ index, _ ↔ IsPluginDirectory directories index :=
    fun index => isPluginPlace_dotted_iff segments
  rw [derive]
  generalize afterAnyStart (ModuleName.dotted directories).toList = plugin at found ⊢
  cases found with
  | @behind index key least follows =>
      simp only [places] at least
      have filled : directories ≠ [] :=
        List.ne_nil_of_length_pos (Nat.zero_lt_of_lt least.1.isFollowed)
      rw [splitOnChar_dotted segments filled, List.getElem?_map, Option.map_eq_some_iff] at follows
      rcases follows with ⟨directory, isNext, rfl⟩
      exact .behind least (by simpa using isNext)
  | nowhere absent =>
      simp only [places] at absent
      exact .alone absent rfl

example : derive none (ModuleName.dotted ["plugin", "plugin", "plugin", "net"]) = "plugin" := by
  decide +kernel

/-- A directory for plugins that has none in it makes no key. -/
theorem derive_of_plugins_last {directories : List String} (segments : AreSegments directories)
    (last : ∀ index, 1 ≤ index → directories[index]? = some "plugin" →
      index + 1 = directories.length) :
    derive none (ModuleName.dotted directories) = ModuleName.dotted directories := by
  cases isDirectoryKey_derive segments with
  | behind least _ =>
      have isLast := last _ least.1.behindFirst least.1.isPlugin
      have isFollowed := least.1.isFollowed
      omega
  | alone _ isPackage => exact isPackage

end GroupKey

namespace FileScan

/-- All classes in a file are in the package that its directories make. -/
theorem packageName_of_mem_scanFile {scan : FileScan} {tree : FileTree} {path : PathName}
    {directories : List String} {fileName : String} {declaration : Declaration}
    (yielded : declaration ∈ (scan.scanFile tree path (.below directories fileName)).declarations) :
    declaration.packageName = ModuleName.dotted directories := by
  rcases ModuleName.ofPath?_below directories fileName with ⟨name, named, package⟩
  have found := (scan.shows_scanFile tree path (.below directories fileName)).mem_findings yielded
  generalize tree.read path = content at found
  cases content with
  | error problem => simp [SourcePart.findings] at found
  | ok bytes =>
      rw [SourcePart.findings, named] at found
      cases read : Source.readModule scan.lookup bytes with
      | none => simp [read] at found
      | some body =>
          simp only [read, ClassWalk.bodyFindings_module, List.mem_map] at found
          rcases found with ⟨node, -, isDeclaration⟩
          rw [ClassWalk.packageName_of_finding isDeclaration]
          exact package

end FileScan

/-- Source files are grouped by the directories that they lie in. -/
structure GroupedByDirectory (directories : List String) : Prop where
  /-- The package of a file is made of its directories. -/
  package : ∀ fileName, ∃ name,
    ModuleName.ofPath? (.below directories fileName) = some name ∧
      name.package = ModuleName.dotted directories
  /-- So is its key, with any start. -/
  key : GroupKey.AreSegments directories →
    GroupKey.IsDirectoryKey directories (GroupKey.derive none (ModuleName.dotted directories))
  /-- All classes of all files in the directory are in one group, with any start or with a
  given one. -/
  oneGroup : ∀ (scan : FileScan) tree path fileName,
    ∀ declaration ∈ (scan.scanFile tree path (.below directories fileName)).declarations,
    ∀ entry, Entry.ofDeclaration? declaration = some entry → ∀ start,
      entry.groupKey start = GroupKey.derive start (ModuleName.dotted directories)
  /-- A file that lies in a directory for plugins is no plugin itself. -/
  noPluginItself : GroupKey.AreSegments directories →
    (∀ index, 1 ≤ index → directories[index]? = some "plugin" → index + 1 = directories.length) →
    GroupKey.derive none (ModuleName.dotted directories) = ModuleName.dotted directories

theorem groupedByDirectory (directories : List String) : GroupedByDirectory directories where
  package := ModuleName.ofPath?_below directories
  key := GroupKey.isDirectoryKey_derive
  oneGroup := by
    intro scan tree path fileName declaration yielded entry isEntry start
    rcases Option.map_eq_some_iff.mp isEntry with ⟨marker, -, rfl⟩
    rw [← FileScan.packageName_of_mem_scanFile yielded]
    rfl
  noPluginItself := GroupKey.derive_of_plugins_last

/-- A directory in one for plugins is a plugin, but a file is not. -/
theorem groupedByDirectory_of_plugins :
    GroupKey.AreSegments ["org", "plugin", "net"] ∧
      GroupKey.IsDirectoryKey ["org", "plugin", "net"] (GroupKey.derive none "org.plugin.net") ∧
      GroupKey.derive none "org.plugin.net" = "net" ∧
      GroupKey.AreSegments ["org", "plugin"] ∧
      GroupKey.derive none "org.plugin" = "org.plugin" := by
  have segments : GroupKey.AreSegments ["org", "plugin", "net"] := by
    unfold GroupKey.AreSegments
    decide
  have fewer : GroupKey.AreSegments ["org", "plugin"] := by
    unfold GroupKey.AreSegments
    decide
  have last : ∀ index, 1 ≤ index → ["org", "plugin"][index]? = some "plugin" → index + 1 = 2 := by
    intro index behindFirst isPlugin
    have within : index < 2 := (List.getElem?_eq_some_iff.mp isPlugin).1
    omega
  refine ⟨segments, (groupedByDirectory _).key segments, by decide +kernel, fewer, ?_⟩
  exact (groupedByDirectory _).noPluginItself fewer last

end TaggedCatalog
