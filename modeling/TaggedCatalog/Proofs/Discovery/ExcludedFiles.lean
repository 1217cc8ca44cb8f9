import Mathlib.Data.List.Lex
import Mathlib.Data.String.Basic
import TaggedCatalog.Proofs.Discovery.SequentialRun
import TaggedCatalog.Proofs.FileTree.Delete

/-! # Excluded files

Scanning a directory goes through its source files in the order of their paths. To
exclude some of them is the same as not to have them: it makes no difference what an
excluded file holds, nor whether it can be read at all. -/

namespace TaggedCatalog

namespace PathName

/-- Components are in lexicographic order. -/
theorem componentsPrecede_iff (left right : List String) :
    componentsPrecede left right = true ↔
      left = right ∨ List.Lex (fun first second => first < second) left right := by
  induction left generalizing right with
  | nil =>
      cases right with
      | nil => simp [componentsPrecede]
      | cons other right => exact ⟨fun _ => .inr .nil, fun _ => rfl⟩
  | cons first left induction =>
      cases right with
      | nil => simp [componentsPrecede]
      | cons other right =>
          rw [componentsPrecede, Bool.or_eq_true, Bool.and_eq_true, decide_eq_true_eq, beq_iff_eq,
            induction, List.cons_lex_cons_iff, List.cons_eq_cons]
          tauto

theorem precedes_iff (left right : PathName) :
    left.precedes right = true ↔ left.components ≤ right.components :=
  (componentsPrecede_iff _ _).trans le_iff_eq_or_lt.symm

theorem precedes_trans (first second third : PathName) (firstSecond : first.precedes second = true)
    (secondThird : second.precedes third = true) : first.precedes third = true := by
  rw [precedes_iff] at *
  exact le_trans firstSecond secondThird

theorem precedes_total (left right : PathName) :
    (left.precedes right || right.precedes left) = true := by
  rw [Bool.or_eq_true, precedes_iff, precedes_iff]
  exact le_total _ _

/-- Relative paths that precede each other are the same. -/
theorem precedes_antisymm {left right : PathName} (leftRelative : left.root = .relative)
    (rightRelative : right.root = .relative) (leftRight : left.precedes right = true)
    (rightLeft : right.precedes left = true) : left = right := by
  rw [precedes_iff] at leftRight rightLeft
  have same := le_antisymm leftRight rightLeft
  cases left
  cases right
  cases leftRelative
  cases rightRelative
  exact congrArg _ same

end PathName

/-! ## Source files below a directory -/

/-- Whether a path below a directory is that of a source file. -/
structure IsSourceBelow (tree : FileTree) (directory : Location) (below : PathName) : Prop where
  isRelative : below.root = .relative
  isSource : below.nameEndsWith FileScan.sourceEnding = true
  isFile : (tree.file? (directory ++ below.names)).isSome = true

theorem IsSourceBelow.filled {tree : FileTree} {directory : Location} {names : List String}
    (isSourceBelow : IsSourceBelow tree directory ⟨.relative, names⟩) : names ≠ [] := by
  rintro rfl
  exact absurd isSourceBelow.isSource (by decide)

namespace FileScan

variable {tree : FileTree} {directory : Location}

/-- The source files below a directory, in no order. -/
def sourcesBelow (tree : FileTree) (directory : Location) : List PathName :=
  ((tree.namesBelow directory).map fun names => PathName.mk .relative names).filter
    fun path => path.nameEndsWith sourceEnding

theorem filesBelow_perm (tree : FileTree) (directory : Location) :
    (filesBelow tree directory).Perm (sourcesBelow tree directory) :=
  List.mergeSort_perm _ _

theorem filesBelow_sorted (tree : FileTree) (directory : Location) :
    (filesBelow tree directory).Pairwise fun left right => left.precedes right = true :=
  List.pairwise_mergeSort PathName.precedes_trans PathName.precedes_total _

theorem mem_filesBelow_iff {below : PathName} :
    below ∈ filesBelow tree directory ↔ IsSourceBelow tree directory below := by
  rw [(filesBelow_perm tree directory).mem_iff, sourcesBelow, List.mem_filter, List.mem_map]
  constructor
  · rintro ⟨⟨names, member, rfl⟩, isSource⟩
    exact ⟨rfl, isSource, (FileTree.mem_namesBelow_iff.mp member).1⟩
  · intro isSourceBelow
    rcases below with ⟨root, names⟩
    cases isSourceBelow.isRelative
    have member := FileTree.mem_namesBelow_iff.mpr ⟨isSourceBelow.isFile, isSourceBelow.filled⟩
    exact ⟨⟨names, member, rfl⟩, isSourceBelow.isSource⟩

/-- There is only one way to put the source files in order. -/
theorem filesBelow_eq_of_sorted {files : List PathName}
    (same : files.Perm (sourcesBelow tree directory))
    (sorted : files.Pairwise fun left right => left.precedes right = true) :
    filesBelow tree directory = files := by
  have perm := (filesBelow_perm tree directory).trans same.symm
  apply List.Perm.eq_of_pairwise _ (filesBelow_sorted tree directory) sorted perm
  intro left right leftMember rightMember
  exact PathName.precedes_antisymm (mem_filesBelow_iff.mp leftMember).isRelative
    (mem_filesBelow_iff.mp (perm.mem_iff.mpr rightMember)).isRelative

theorem nodup_filesBelow (proper : tree.IsProper) (directory : Location) :
    (filesBelow tree directory).Nodup := by
  rw [(filesBelow_perm tree directory).nodup_iff]
  apply List.Nodup.filter
  apply List.Nodup.map _ (FileTree.nodup_namesBelow proper directory)
  intro left right same
  exact (PathName.mk.inj same).2

/-- Source files are in the strict order of their components. -/
theorem filesBelow_strictlySorted (proper : tree.IsProper) (directory : Location) :
    (filesBelow tree directory).Pairwise fun left right =>
      List.Lex (fun first second => first < second) left.names right.names := by
  have both := (filesBelow_sorted tree directory).and (nodup_filesBelow proper directory)
  apply both.imp_of_mem
  intro left right leftMember rightMember precedes
  rcases left with ⟨leftRoot, leftNames⟩
  rcases right with ⟨rightRoot, rightNames⟩
  cases (mem_filesBelow_iff.mp leftMember).isRelative
  cases (mem_filesBelow_iff.mp rightMember).isRelative
  apply ((PathName.componentsPrecede_iff _ _).mp precedes.1).resolve_left
  intro same
  exact precedes.2 (congrArg _ same)

/-! ## Deleting what is excluded -/

/-- Whether a place is that of a source file below a directory that is excluded. -/
def isExcludedSource (directory : Location) (isExcluded : String → Bool) (place : Location) :
    Bool :=
  (FileTree.namesFrom? directory place).any fun names =>
    (PathName.mk .relative names).nameEndsWith sourceEnding &&
      isExcluded (PathName.mk .relative names).text

theorem isExcludedSource_append {names : List String} (filled : names ≠ [])
    (directory : Location) (isExcluded : String → Bool) :
    isExcludedSource directory isExcluded (directory ++ names) =
      ((PathName.mk .relative names).nameEndsWith sourceEnding &&
        isExcluded (PathName.mk .relative names).text) := by
  rw [isExcludedSource, FileTree.namesFrom?_eq_some_iff.mpr ⟨rfl, filled⟩]
  rfl

/-- What is left of a tree without the excluded source files below a directory. -/
def withoutExcluded (tree : FileTree) (directory : Location) (isExcluded : String → Bool) :
    FileTree :=
  tree.delete (isExcludedSource directory isExcluded)

theorem directoryAt?_withoutExcluded (tree : FileTree) (directory : Location)
    (isExcluded : String → Bool) (path : PathName) :
    (withoutExcluded tree directory isExcluded).directoryAt? path = tree.directoryAt? path :=
  FileTree.directoryAt?_delete tree _ path

theorem sourcesBelow_withoutExcluded (tree : FileTree) (directory : Location)
    (isExcluded : String → Bool) :
    sourcesBelow (withoutExcluded tree directory isExcluded) directory =
      (sourcesBelow tree directory).filter fun below => !isExcluded below.text := by
  rw [sourcesBelow, sourcesBelow, withoutExcluded, FileTree.namesBelow_delete]
  simp only [List.filter_map, List.filter_filter]
  congr 1
  apply List.filter_congr
  intro names member
  rw [isExcludedSource_append (FileTree.mem_namesBelow_iff.mp member).2]
  simp only [Function.comp_apply]
  cases (PathName.mk .relative names).nameEndsWith sourceEnding <;> simp

/-- The source files below a directory that are not excluded. -/
def remaining (tree : FileTree) (directory : Location) (isExcluded : String → Bool) :
    List PathName :=
  (filesBelow tree directory).filter fun below => !isExcluded below.text

theorem mem_remaining_iff {isExcluded : String → Bool} {below : PathName} :
    below ∈ remaining tree directory isExcluded ↔
      IsSourceBelow tree directory below ∧ isExcluded below.text = false := by
  rw [remaining, List.mem_filter, mem_filesBelow_iff, Bool.not_eq_true']

theorem remaining_none (tree : FileTree) (directory : Location) :
    remaining tree directory (fun _ => false) = filesBelow tree directory := by
  rw [remaining, Bool.not_false, List.filter_true]

/-- The files that are left stand in the same order as before. -/
theorem filesBelow_withoutExcluded (tree : FileTree) (directory : Location)
    (isExcluded : String → Bool) :
    filesBelow (withoutExcluded tree directory isExcluded) directory =
      remaining tree directory isExcluded := by
  apply filesBelow_eq_of_sorted
  · rw [sourcesBelow_withoutExcluded]
    exact (filesBelow_perm tree directory).filter _
  · exact (filesBelow_sorted tree directory).filter _

/-- A file that is not excluded is read as if the excluded ones were not there. -/
theorem read_withoutExcluded (proper : tree.IsProper) {root below : PathName}
    (found : tree.directoryAt? root = some directory) {isExcluded : String → Bool}
    (isSource : IsSourceBelow tree directory below) (kept : isExcluded below.text = false) :
    (withoutExcluded tree directory isExcluded).read (root.join below) =
      tree.read (root.join below) := by
  rcases below with ⟨belowRoot, names⟩
  cases isSource.isRelative
  rcases Option.isSome_iff_exists.mp isSource.isFile with ⟨content, isContent⟩
  have led := FileTree.locate_join proper found (FileTree.exists_mem_of_file? isContent)
  apply FileTree.read_delete_kept led
  rw [isExcludedSource_append isSource.filled, kept, Bool.and_false]

/-! ## Scanning -/

section Scanning

variable (lookup : Source.Lookup)

def scanOne (root : PathName) (marker : String) (isExcluded : String → Bool) (tree : FileTree) :
    SourceOutcome :=
  run { roots := [root], marker, lookup, isExcluded } tree

def findingsBelow (tree : FileTree) (root : PathName) (marker : String) (below : PathName) :
    List Finding :=
  (SourcePart.file (root.join below) below (tree.read (root.join below))).findings lookup marker

theorem flatMap_ofFileBelow (isExcluded : String → Bool) (tree : FileTree) (root : PathName)
    (marker : String) (files : List PathName) :
    (files.flatMap (SourcePart.ofFileBelow isExcluded tree root)).flatMap
        (SourcePart.findings lookup marker) =
      (files.filter fun below => !isExcluded below.text).flatMap
        (findingsBelow lookup tree root marker) := by
  induction files with
  | nil => rfl
  | cons below files induction =>
      rw [List.flatMap_cons, List.flatMap_append, induction, SourcePart.ofFileBelow,
        List.filter_cons]
      cases isExcluded below.text <;> simp [findingsBelow]

theorem shows_scanOne {root : PathName} (found : tree.directoryAt? root = some directory)
    (marker : String) (isExcluded : String → Bool) :
    (scanOne lookup root marker isExcluded tree).Shows
      ((remaining tree directory isExcluded).flatMap (findingsBelow lookup tree root marker)) := by
  have shown := shows_run { roots := [root], marker, lookup, isExcluded } tree
  rw [List.flatMap_singleton, SourcePart.ofRoot, found] at shown
  rw [remaining, ← flatMap_ofFileBelow]
  exact shown

theorem shows_withoutExcluded {root : PathName} (found : tree.directoryAt? root = some directory)
    (marker : String) (isExcluded : String → Bool) :
    (scanOne lookup root marker (fun _ => false) (withoutExcluded tree directory isExcluded)).Shows
      ((remaining tree directory isExcluded).flatMap
        (findingsBelow lookup (withoutExcluded tree directory isExcluded) root marker)) := by
  have foundLeft : (withoutExcluded tree directory isExcluded).directoryAt? root = some directory :=
    (directoryAt?_withoutExcluded _ _ _ root).trans found
  have shown := shows_scanOne lookup foundLeft marker fun _ => false
  rw [remaining_none, filesBelow_withoutExcluded] at shown
  exact shown

theorem flatMap_findingsBelow_withoutExcluded (proper : tree.IsProper) {root : PathName}
    (found : tree.directoryAt? root = some directory) (marker : String)
    (isExcluded : String → Bool) :
    (remaining tree directory isExcluded).flatMap
        (findingsBelow lookup (withoutExcluded tree directory isExcluded) root marker) =
      (remaining tree directory isExcluded).flatMap (findingsBelow lookup tree root marker) := by
  apply List.flatMap_congr
  intro below member
  rcases mem_remaining_iff.mp member with ⟨isSource, kept⟩
  rw [findingsBelow, findingsBelow, read_withoutExcluded proper found isSource kept]

theorem scanOne_withoutExcluded (proper : tree.IsProper) {root : PathName}
    (found : tree.directoryAt? root = some directory) (marker : String)
    (isExcluded : String → Bool) :
    (scanOne lookup root marker isExcluded tree).SameButRecords
      (scanOne lookup root marker (fun _ => false)
        (withoutExcluded tree directory isExcluded)) := by
  have left := shows_withoutExcluded lookup found marker isExcluded
  rw [flatMap_findingsBelow_withoutExcluded lookup proper found] at left
  exact (shows_scanOne lookup found marker isExcluded).unique left

/-- Excluding source files below a directory is the same as deleting them. -/
structure ExcludesAsDeletes (tree : FileTree) (root : PathName) (directory : Location)
    (marker : String) (isExcluded : String → Bool) : Prop where
  same : (scanOne lookup root marker isExcluded tree).SameButRecords
    (scanOne lookup root marker (fun _ => false) (withoutExcluded tree directory isExcluded))
  /-- Both go through the other source files, each once and in the order of their
  components, up to the first failure. -/
  inOrder : ∃ files : List PathName,
    (∀ below, below ∈ files ↔ IsSourceBelow tree directory below ∧ isExcluded below.text = false) ∧
      files.Pairwise (fun left right =>
        List.Lex (fun first second => first < second) left.names right.names) ∧
      (scanOne lookup root marker isExcluded tree).Shows
        (files.flatMap (findingsBelow lookup tree root marker)) ∧
      (scanOne lookup root marker (fun _ => false)
          (withoutExcluded tree directory isExcluded)).Shows
        (files.flatMap
          (findingsBelow lookup (withoutExcluded tree directory isExcluded) root marker))
  /-- What the excluded files hold, and whether they can be read, makes no difference. -/
  contentIrrelevant : ∀ other : FileTree, other.IsProper →
    withoutExcluded other directory isExcluded = withoutExcluded tree directory isExcluded →
    (scanOne lookup root marker isExcluded other).SameButRecords
      (scanOne lookup root marker isExcluded tree)

theorem excludesAsDeletes (proper : tree.IsProper) {root : PathName}
    (found : tree.directoryAt? root = some directory) (marker : String)
    (isExcluded : String → Bool) :
    ExcludesAsDeletes lookup tree root directory marker isExcluded where
  same := scanOne_withoutExcluded lookup proper found marker isExcluded
  inOrder := by
    refine ⟨remaining tree directory isExcluded, fun below => mem_remaining_iff, ?_,
      shows_scanOne lookup found marker isExcluded,
      shows_withoutExcluded lookup found marker isExcluded⟩
    exact (filesBelow_strictlySorted proper directory).filter _
  contentIrrelevant := by
    intro other otherProper sameLeft
    have otherFound : other.directoryAt? root = some directory := by
      rw [← directoryAt?_withoutExcluded other directory isExcluded, sameLeft,
        directoryAt?_withoutExcluded, found]
    have otherSame := scanOne_withoutExcluded lookup otherProper otherFound marker isExcluded
    rw [sameLeft] at otherSame
    exact otherSame.trans (scanOne_withoutExcluded lookup proper found marker isExcluded).symm

theorem scanOne_file {root : PathName} (isFile : tree.isFile root = true) (marker : String)
    (isExcluded others : String → Bool) :
    scanOne lookup root marker isExcluded tree = scanOne lookup root marker others tree := by
  have noDirectory := FileTree.directoryAt?_of_isFile isFile
  simp only [scanOne, run, List.map_cons, List.map_nil, scanRoot, noDirectory, isFile]
  rfl

/-- A root that is a directory is scanned as if the excluded files were not there, and a
root that is a file is scanned whatever is excluded. -/
theorem scanOne_excluding_is_deleting (proper : tree.IsProper) (root : PathName)
    (marker : String) (isExcluded : String → Bool) :
    (∀ directory, tree.directoryAt? root = some directory →
        ExcludesAsDeletes lookup tree root directory marker isExcluded) ∧
      (tree.isFile root = true → ∀ others : String → Bool,
        scanOne lookup root marker isExcluded tree = scanOne lookup root marker others tree) := by
  constructor
  · intro directory found
    exact excludesAsDeletes lookup proper found marker isExcluded
  · intro isFile others
    exact scanOne_file lookup isFile marker isExcluded others

end Scanning

/-- A file that cannot be read stops a scan, but not where it is excluded. -/
theorem scanOne_unreadable_excluded :
    let tree : FileTree :=
      { workingDirectory := ["work"]
        files := [(["work", "src", "z.py"], { bytes := [], readable := false }),
          (["work", "src", "gen", "a.py"], { bytes := [], readable := false })]
        directories := [] }
    let root : PathName := ⟨.relative, ["src"]⟩
    let isExcluded : String → Bool := fun path => path == "gen/a.py"
    tree.IsProper ∧ tree.directoryAt? root = some ["work", "src"] ∧
      (scanOne .empty root "command" isExcluded tree).SameButRecords
        (scanOne .empty root "command" (fun _ => false)
          (withoutExcluded tree ["work", "src"] isExcluded)) ∧
      (scanOne .empty root "command" isExcluded tree).failure =
        some (.unreadable ⟨.relative, ["src", "z.py"]⟩ .forbidden) ∧
      (scanOne .empty root "command" (fun _ => false) tree).failure =
        some (.unreadable ⟨.relative, ["src", "gen", "a.py"]⟩ .forbidden) := by
  intro tree root isExcluded
  have proper : tree.IsProper := ⟨by decide, by decide, by decide⟩
  have found : tree.directoryAt? root = some ["work", "src"] := by decide
  have inOrder : filesBelow tree ["work", "src"] =
      [⟨.relative, ["gen", "a.py"]⟩, ⟨.relative, ["z.py"]⟩] :=
    filesBelow_eq_of_sorted (by decide) (by decide)
  refine ⟨proper, found, ?_, ?_, ?_⟩
  · exact ((scanOne_excluding_is_deleting .empty proper root "command" isExcluded).1 _ found).same
  · have files : remaining tree ["work", "src"] isExcluded = [⟨.relative, ["z.py"]⟩] := by
      rw [remaining, inOrder]
      decide
    have shown := shows_scanOne .empty found "command" isExcluded
    rw [files] at shown
    have failed : (scanOne .empty root "command" isExcluded tree).Shows (List.map .ok [] ++
        .error (.unreadable ⟨.relative, ["src", "z.py"]⟩ .forbidden) :: []) := shown
    exact failed.of_failure.2
  · have shown := shows_scanOne .empty found "command" fun _ => false
    rw [remaining_none, inOrder] at shown
    have failed : (scanOne .empty root "command" (fun _ => false) tree).Shows (List.map .ok [] ++
        .error (.unreadable ⟨.relative, ["src", "gen", "a.py"]⟩ .forbidden) :: _) := shown
    exact failed.of_failure.2

end FileScan

end TaggedCatalog
