import TaggedCatalog.Discovery.FileScan
import TaggedCatalog.Proofs.Discovery.DirectoryGroups

/-! # Modules and their files

A module is named after its file, but a file may also stand for the package that it lies
in. So a name tells the file, except that a module and a package beside it have the same
name. Behind its package, the name of a module has at most one segment. -/

namespace TaggedCatalog

/-! ## Names made of segments -/

namespace ModuleName

theorem dotted_concat (names : List String) (last : String) :
    dotted (names ++ [last]) = if names = [] then last else dotted names ++ "." ++ last := by
  induction names with
  | nil => rfl
  | cons name rest induction =>
      cases rest with
      | nil => rfl
      | cons next others =>
          have behind : dotted (next :: others ++ [last]) =
              dotted (next :: others) ++ "." ++ last := by
            simpa using induction
          change name ++ "." ++ dotted (next :: others ++ [last]) =
            name ++ "." ++ dotted (next :: others) ++ "." ++ last
          rw [behind]
          simp only [String.append_assoc]

theorem dotted_eq_empty_iff {names : List String} (segments : GroupKey.AreSegments names) :
    dotted names = "" ↔ names = [] := by
  constructor
  · intro empty
    by_contra filled
    have split : [[]] = names.map String.toList := by
      rw [← GroupKey.splitOnChar_dotted segments filled, empty]
      rfl
    have member : [] ∈ names.map String.toList := split ▸ List.mem_cons_self
    rcases List.mem_map.mp member with ⟨name, isName, noText⟩
    exact (segments name isName).1 (String.toList_eq_nil_iff.mp noText)
  · rintro rfl
    rfl

/-- Segments are read off the name that they make. -/
theorem dotted_inj {left right : List String} (leftSegments : GroupKey.AreSegments left)
    (rightSegments : GroupKey.AreSegments right) : dotted left = dotted right ↔ left = right := by
  constructor
  · intro same
    by_cases leftFilled : left = []
    · subst left
      exact ((dotted_eq_empty_iff rightSegments).mp same.symm).symm
    · have rightFilled : right ≠ [] := by
        rintro rfl
        exact leftFilled ((dotted_eq_empty_iff leftSegments).mp same)
      have split := GroupKey.splitOnChar_dotted leftSegments leftFilled
      rw [same, GroupKey.splitOnChar_dotted rightSegments rightFilled] at split
      exact (List.map_injective_iff.mpr (fun _ _ => String.toList_inj.mp) split).symm
  · rintro rfl
    rfl

/-- The name of a module in its package: the name of the package, with at most one segment
behind it. -/
inductive IsInPackage (name : ModuleName) : Prop
  | itself (isPackage : name.name = name.package)
  | behind {segment : String} (filled : segment ≠ "") (undotted : '.' ∉ segment.toList)
      (isBehind : name.name =
        if name.package = "" then segment else name.package ++ "." ++ segment)

end ModuleName

/-! ## Source files -/

namespace PathName

/-- The extension goes if there is something on both sides of its dot. -/
theorem stem_append {before extension : List Char} (filled : before ≠ [])
    (extended : extension ≠ []) (undotted : '.' ∉ extension) :
    stem (before ++ '.' :: extension) = before := by
  have isOther : ∀ c ∈ extension.reverse, (c != '.') = true := by
    intro c member
    rw [bne_iff_ne]
    rintro rfl
    exact undotted (List.mem_reverse.mp member)
  have reversed : (before ++ '.' :: extension).reverse =
      extension.reverse ++ '.' :: before.reverse := by
    simp
  simp [stem, reversed, List.takeWhile_append_of_pos isOther, List.dropWhile_append_of_pos isOther,
    filled, extended]

theorem below_inj {directories others : List String} {fileName other : String} :
    below directories fileName = below others other ↔ directories = others ∧ fileName = other := by
  simp [below]

end PathName

/-- A source file below a root, whose directories and own name, less the ending, are
single segments. -/
structure SourceFile where
  directories : List String
  stem : String
  areSegments : GroupKey.AreSegments (directories ++ [stem])

namespace SourceFile

/-- The path of the file below the root. -/
def path (file : SourceFile) : PathName :=
  .below file.directories (file.stem ++ FileScan.sourceEnding)

/-- The segments of the name of the module in a file. -/
def moduleSegments (file : SourceFile) : List String :=
  if file.stem = ModuleName.initName then file.directories else file.directories ++ [file.stem]

theorem areSegments_directories (file : SourceFile) : GroupKey.AreSegments file.directories :=
  fun directory member => file.areSegments directory (List.mem_append_left _ member)

theorem areSegments_moduleSegments (file : SourceFile) :
    GroupKey.AreSegments file.moduleSegments := by
  rw [moduleSegments]
  split
  · exact file.areSegments_directories
  · exact file.areSegments

theorem isSegment_stem (file : SourceFile) : file.stem ≠ "" ∧ '.' ∉ file.stem.toList :=
  file.areSegments file.stem (List.mem_append_right _ List.mem_cons_self)

theorem stem_fileName (file : SourceFile) :
    String.ofList (PathName.stem (file.stem ++ FileScan.sourceEnding).toList) = file.stem := by
  have stripped : PathName.stem (file.stem.toList ++ FileScan.sourceEnding.toList) =
      file.stem.toList := by
    apply PathName.stem_append _ (by decide) (by decide)
    rw [ne_eq, String.toList_eq_nil_iff]
    exact file.isSegment_stem.1
  rw [String.toList_append, stripped, String.ofList_toList]

theorem ofPath?_path (file : SourceFile) :
    ModuleName.ofPath? file.path =
      some ⟨ModuleName.dotted file.moduleSegments, ModuleName.dotted file.directories⟩ := by
  have components : ModuleName.components? file.path = some (file.directories ++ [file.stem]) := by
    rw [← file.stem_fileName]
    simp [ModuleName.components?, path, PathName.below, PathName.fileName?, PathName.components]
  rw [ModuleName.ofPath?, components, Option.map_some, ModuleName.ofComponents, moduleSegments]
  by_cases isInit : file.stem = ModuleName.initName <;> simp [isInit]

theorem isInPackage (file : SourceFile) :
    ModuleName.IsInPackage
      ⟨ModuleName.dotted file.moduleSegments, ModuleName.dotted file.directories⟩ := by
  by_cases isInit : file.stem = ModuleName.initName
  · apply ModuleName.IsInPackage.itself
    rw [moduleSegments, if_pos isInit]
  · apply ModuleName.IsInPackage.behind file.isSegment_stem.1 file.isSegment_stem.2
    simp only [moduleSegments, if_neg isInit, ModuleName.dotted_concat,
      ModuleName.dotted_eq_empty_iff file.areSegments_directories]

/-! ## Files with the same name -/

/-- A module and a package beside it: a file in some directory, and the file that stands
for the directory of the same name next to it. -/
def AreModuleAndPackage (module package : PathName) : Prop :=
  ∃ directories name, name ≠ ModuleName.initName ∧
    module = .below directories (name ++ FileScan.sourceEnding) ∧
    package = .below (directories ++ [name]) (ModuleName.initName ++ FileScan.sourceEnding)

theorem path_eq_iff (file : SourceFile) (directories : List String) (stem : String) :
    file.path = .below directories (stem ++ FileScan.sourceEnding) ↔
      file.directories = directories ∧ file.stem = stem := by
  rw [path, PathName.below_inj, String.append_left_inj]

theorem areModuleAndPackage_iff (module package : SourceFile) :
    AreModuleAndPackage module.path package.path ↔
      module.stem ≠ ModuleName.initName ∧ package.stem = ModuleName.initName ∧
        package.directories = module.directories ++ [module.stem] := by
  constructor
  · rintro ⟨directories, name, notInit, isModule, isPackage⟩
    rcases (module.path_eq_iff _ _).mp isModule with ⟨rfl, rfl⟩
    rcases (package.path_eq_iff _ _).mp isPackage with ⟨inside, isInit⟩
    exact ⟨notInit, isInit, inside⟩
  · rintro ⟨notInit, isInit, inside⟩
    exact ⟨_, _, notInit, rfl, (package.path_eq_iff _ _).mpr ⟨inside, isInit⟩⟩

theorem moduleSegments_eq_iff (first second : SourceFile) (distinct : first.path ≠ second.path) :
    first.moduleSegments = second.moduleSegments ↔
      AreModuleAndPackage first.path second.path ∨ AreModuleAndPackage second.path first.path := by
  rw [areModuleAndPackage_iff, areModuleAndPackage_iff, moduleSegments, moduleSegments]
  have notSame : ¬(first.directories = second.directories ∧ first.stem = second.stem) :=
    fun same => distinct ((first.path_eq_iff _ _).mpr same)
  by_cases firstInit : first.stem = ModuleName.initName
  · by_cases secondInit : second.stem = ModuleName.initName
    · have sameStem : first.stem = second.stem := firstInit.trans secondInit.symm
      have apart : first.directories ≠ second.directories := fun same => notSame ⟨same, sameStem⟩
      simp [firstInit, secondInit, apart]
    · simp [firstInit, secondInit]
  · by_cases secondInit : second.stem = ModuleName.initName
    · simp [firstInit, secondInit, eq_comm]
    · simp [firstInit, secondInit, notSame]

/-- A file always has a module, whose name is that of its package or has one segment more.
Different files have modules of the same name if and only if one is a module and the other
the package beside it. -/
theorem ofPath?_tells_file (first second : SourceFile) :
    ∃ firstName secondName, ModuleName.ofPath? first.path = some firstName ∧
      ModuleName.ofPath? second.path = some secondName ∧
      firstName.IsInPackage ∧ secondName.IsInPackage ∧
      (first.path ≠ second.path → (firstName.name = secondName.name ↔
        AreModuleAndPackage first.path second.path ∨
          AreModuleAndPackage second.path first.path)) := by
  refine ⟨_, _, first.ofPath?_path, second.ofPath?_path, first.isInPackage, second.isInPackage, ?_⟩
  intro distinct
  rw [ModuleName.dotted_inj first.areSegments_moduleSegments second.areSegments_moduleSegments]
  exact moduleSegments_eq_iff first second distinct

/-- A directory may have the name of the files that stand for directories. -/
theorem ofPath?_beside_package_in_init :
    let module : SourceFile :=
      ⟨["org", "__init__"], "net", by unfold GroupKey.AreSegments; decide⟩
    let package : SourceFile :=
      ⟨["org", "__init__", "net"], "__init__", by unfold GroupKey.AreSegments; decide⟩
    module.path = .ofText "org/__init__/net.py" ∧
      package.path = .ofText "org/__init__/net/__init__.py" ∧
      module.path ≠ package.path ∧ ∃ moduleName packageName,
        ModuleName.ofPath? module.path = some moduleName ∧
          ModuleName.ofPath? package.path = some packageName ∧
          moduleName.name = packageName.name := by
  intro module package
  have distinct : module.path ≠ package.path := by decide +kernel
  refine ⟨by decide +kernel, by decide +kernel, distinct, ?_⟩
  rcases ofPath?_tells_file module package with
    ⟨moduleName, packageName, isModule, isPackage, -, -, same_iff⟩
  refine ⟨moduleName, packageName, isModule, isPackage, (same_iff distinct).mpr (.inl ?_)⟩
  rw [areModuleAndPackage_iff]
  decide

end SourceFile

end TaggedCatalog
