import Mathlib.Data.List.Nodup
import TaggedCatalog.Proofs.FileTree.Write

/-! # What deleting files changes

Deleting files takes nothing away but these files: every directory stays, and a path
that led to another file leads to it as before. -/

namespace TaggedCatalog

namespace FileTree

/-- A tree in which every file has a place of its own: its names lead down to it, and
there is no directory and no other file. -/
structure IsProper (tree : FileTree) : Prop where
  named : ∀ file ∈ tree.files, ∀ name ∈ file.1, name ≠ ".." ∧ nullCharacter ∉ name.toList
  once : (tree.files.map (·.1)).Nodup
  apart : ∀ file ∈ tree.files, tree.isDirectoryAt file.1 = false

theorem exists_mem_of_file? {tree : FileTree} {place : Location} {content : FileContent}
    (found : tree.file? place = some content) : (place, content) ∈ tree.files := by
  rcases Option.map_eq_some_iff.mp found with ⟨file, isFirst, rfl⟩
  have same : file.1 = place := by simpa using List.find?_some isFirst
  rw [← same]
  exact List.mem_of_find?_eq_some isFirst

theorem isSome_file?_iff {tree : FileTree} {place : Location} :
    (tree.file? place).isSome = true ↔ ∃ file ∈ tree.files, file.1 = place := by
  simp [file?]

/-! ## Names below a directory -/

/-- The names that lead down from a directory to a place below it. -/
def namesFrom? (directory place : Location) : Option (List String) :=
  if directory.isPrefixOf place && directory != place then some (place.drop directory.length)
  else none

theorem namesBelow_eq (tree : FileTree) (directory : Location) :
    tree.namesBelow directory = (tree.files.map (·.1)).filterMap (namesFrom? directory) := by
  rw [List.filterMap_map]
  rfl

theorem namesFrom?_eq_some_iff {directory place : Location} {names : List String} :
    namesFrom? directory place = some names ↔ place = directory ++ names ∧ names ≠ [] := by
  rw [namesFrom?, Option.ite_none_right_eq_some, Bool.and_eq_true, List.isPrefixOf_iff_prefix,
    bne_iff_ne]
  constructor
  · rintro ⟨⟨⟨rest, rfl⟩, strict⟩, isRest⟩
    rw [List.drop_left] at isRest
    cases isRest
    exact ⟨rfl, by simpa using strict⟩
  · rintro ⟨rfl, filled⟩
    exact ⟨⟨List.prefix_append _ _, by simpa using filled⟩, by rw [List.drop_left]⟩

theorem mem_namesBelow_iff {tree : FileTree} {directory : Location} {names : List String} :
    names ∈ tree.namesBelow directory ↔
      (tree.file? (directory ++ names)).isSome = true ∧ names ≠ [] := by
  rw [namesBelow_eq, List.mem_filterMap, isSome_file?_iff]
  constructor
  · rintro ⟨place, member, found⟩
    rcases namesFrom?_eq_some_iff.mp found with ⟨rfl, filled⟩
    exact ⟨List.mem_map.mp member, filled⟩
  · rintro ⟨member, filled⟩
    exact ⟨_, List.mem_map.mpr member, namesFrom?_eq_some_iff.mpr ⟨rfl, filled⟩⟩

theorem nodup_namesBelow {tree : FileTree} (proper : tree.IsProper) (directory : Location) :
    (tree.namesBelow directory).Nodup := by
  rw [namesBelow_eq]
  refine proper.once.filterMap ?_
  intro place other names found otherFound
  rw [(namesFrom?_eq_some_iff.mp found).1, (namesFrom?_eq_some_iff.mp otherFound).1]

/-! ## Paths below a directory -/

theorem isDirectoryAt_of_file {tree : FileTree} {place above : Location} {content : FileContent}
    (member : (place, content) ∈ tree.files) (isAbove : above <+: place) (strict : above ≠ place) :
    tree.isDirectoryAt above = true :=
  (isDirectoryAt_iff tree above).mpr (.inr (.inr (.inr ⟨_, member, isAbove, strict⟩)))

/-- Names behind a path that leads to a directory are followed from there. -/
theorem follow_append {tree : FileTree} {start directory : Location} {names : List String}
    (led : tree.follow start names = .ok directory)
    (isDirectory : tree.isDirectoryAt directory = true) (more : List String) :
    tree.follow start (names ++ more) = tree.follow directory more := by
  induction names generalizing start with
  | nil =>
      cases led
      rfl
  | cons name rest induction =>
      rw [List.cons_append, follow_cons]
      rw [follow_cons] at led
      split at led
      case isTrue isNext => rw [if_pos isNext, induction led]
      case isFalse notNext =>
        -- Only the last name may lead to something else, and then not to a directory.
        split at led
        · cases led
          exact absurd isDirectory notNext
        · split at led <;> cases led

/-- The names of a file lead down to it. -/
theorem follow_below {tree : FileTree} (proper : tree.IsProper) {place : Location}
    {content : FileContent} (member : (place, content) ∈ tree.files) {directory : Location}
    {names : List String} (isPlace : place = directory ++ names) :
    tree.follow directory names = .ok place := by
  induction names generalizing directory with
  | nil => rw [isPlace, List.append_nil, follow]
  | cons name rest induction =>
      have isDown : stepTo directory name = directory ++ [name] :=
        if_neg (proper.named _ member name (by simp [isPlace])).1
      have isRest : place = directory ++ [name] ++ rest := by simp [isPlace]
      rw [follow_cons, isDown]
      cases rest with
      | nil =>
          rw [List.append_nil] at isRest
          rw [← isRest, proper.apart _ member]
          rfl
      | cons next rest =>
          -- More names follow, so the file makes a directory of the place that is reached.
          have isAbove : directory ++ [name] <+: place := ⟨next :: rest, isRest.symm⟩
          have strict : directory ++ [name] ≠ place := by simp [isPlace]
          rw [isDirectoryAt_of_file member isAbove strict, if_pos rfl]
          exact induction isRest

theorem directoryAt?_eq (tree : FileTree) (path : PathName) :
    tree.directoryAt? path = (tree.locate path).toOption.filter tree.isDirectoryAt := by
  rw [directoryAt?]
  cases tree.locate path <;> rfl

theorem locate_of_directoryAt? {tree : FileTree} {root : PathName} {directory : Location}
    (found : tree.directoryAt? root = some directory) :
    tree.locate root = .ok directory ∧ tree.isDirectoryAt directory = true := by
  rw [directoryAt?_eq, Option.filter_eq_some_iff] at found
  refine ⟨?_, found.2⟩
  cases led : tree.locate root with
  | ok place =>
      rw [led] at found
      exact congrArg _ (Option.some.inj found.1)
  | error problem =>
      rw [led] at found
      cases found.1

theorem directoryAt?_of_isFile {tree : FileTree} {path : PathName}
    (isFile : tree.isFile path = true) : tree.directoryAt? path = none := by
  rw [FileTree.isFile, fileAt?] at isFile
  rw [directoryAt?]
  cases led : tree.locate path with
  | error problem => rfl
  | ok place =>
      rw [led] at isFile
      cases isDirectory : tree.isDirectoryAt place with
      | false => simp [isDirectory]
      | true => simp [isDirectory] at isFile

/-- The place that a path is followed from. -/
def startOf (tree : FileTree) : PathRoot → Location
  | .relative => tree.workingDirectory
  | _ => []

theorem locate_eq (tree : FileTree) (root : PathRoot) (names : List String) :
    tree.locate ⟨root, names⟩ =
      if names.any (·.toList.contains nullCharacter) then .error .nullCharacter
      else tree.follow (tree.startOf root) names := by
  cases root <;> rfl

/-- The path of a file below a directory leads to it. -/
theorem locate_join {tree : FileTree} (proper : tree.IsProper) {root : PathName}
    {directory : Location} (found : tree.directoryAt? root = some directory)
    {names : List String} {content : FileContent}
    (member : (directory ++ names, content) ∈ tree.files) :
    tree.locate (root.join ⟨.relative, names⟩) = .ok (directory ++ names) := by
  rcases locate_of_directoryAt? found with ⟨led, isDirectory⟩
  rw [locate_eq] at led
  change tree.locate ⟨root.root, root.names ++ names⟩ = _
  rw [locate_eq]
  split at led
  case isTrue => cases led
  case isFalse rootFree =>
    have namesFree : ¬names.any (·.toList.contains nullCharacter) = true := by
      intro held
      rcases List.any_eq_true.mp held with ⟨name, inNames, isNull⟩
      exact (proper.named _ member name (List.mem_append_right _ inNames)).2
        (List.contains_iff_mem.mp isNull)
    rw [Bool.not_eq_true] at rootFree namesFree
    rw [List.any_append, rootFree, namesFree, Bool.or_false, if_neg Bool.false_ne_true,
      follow_append led isDirectory names]
    exact follow_below proper member rfl

/-! ## Deleting -/

/-- What lies strictly above a place lies above its directory. -/
theorem isPrefix_dropLast_iff {above place : Location} (notRoot : above ≠ []) :
    above <+: place.dropLast ↔ above <+: place ∧ above ≠ place := by
  by_cases filled : place = []
  · simp [filled, notRoot]
  have split := List.dropLast_append_getLast filled
  constructor
  · intro below
    refine ⟨below.trans (List.dropLast_prefix place), ?_⟩
    intro same
    have shorter := below.length_le
    have positive := List.length_pos_iff.mpr filled
    rw [List.length_dropLast, same] at shorter
    omega
  · rintro ⟨below, strict⟩
    rw [← split] at below strict
    exact (List.prefix_concat_iff.mp below).resolve_left strict

theorem isDirectoryAt_delete (tree : FileTree) (doomed : Location → Bool) (place : Location) :
    (tree.delete doomed).isDirectoryAt place = tree.isDirectoryAt place := by
  rw [Bool.eq_iff_iff]
  by_cases isRoot : place = []
  · rw [isRoot, isDirectoryAt_nil, isDirectoryAt_nil]
  rw [isDirectoryAt_iff, isDirectoryAt_iff]
  constructor
  · rintro (empty | working | ⟨listed, member, below⟩ | ⟨file, member, below⟩)
    · exact .inl empty
    · exact .inr (.inl working)
    · rcases List.mem_append.mp member with old | gone
      · exact .inr (.inr (.inl ⟨listed, old, below⟩))
      · rcases List.mem_map.mp gone with ⟨file, inFiles, rfl⟩
        exact .inr (.inr (.inr ⟨file, List.mem_of_mem_filter inFiles,
          (isPrefix_dropLast_iff isRoot).mp below⟩))
    · exact .inr (.inr (.inr ⟨file, List.mem_of_mem_filter member, below⟩))
  · rintro (empty | working | ⟨listed, member, below⟩ | ⟨file, member, below⟩)
    · exact .inl empty
    · exact .inr (.inl working)
    · exact .inr (.inr (.inl ⟨listed, List.mem_append_left _ member, below⟩))
    · cases isDoomed : doomed file.1 with
      | true =>
          -- The file is gone, but the directory that it lay in is listed in its place.
          have listed : file.1.dropLast ∈ (tree.delete doomed).directories :=
            List.mem_append_right _
              (List.mem_map.mpr ⟨file, List.mem_filter.mpr ⟨member, isDoomed⟩, rfl⟩)
          exact .inr (.inr (.inl ⟨_, listed, (isPrefix_dropLast_iff isRoot).mpr below⟩))
      | false =>
          exact .inr (.inr (.inr ⟨file, List.mem_filter.mpr ⟨member, by simp [isDoomed]⟩, below⟩))

theorem file?_delete_kept {tree : FileTree} {doomed : Location → Bool} {place : Location}
    (kept : doomed place = false) : (tree.delete doomed).file? place = tree.file? place := by
  rw [file?, file?, delete, List.find?_filter]
  congr 2
  funext file
  by_cases same : file.1 = place
  · simp [same, kept]
  · simp [same]

theorem directoryAt?_delete (tree : FileTree) (doomed : Location → Bool) (path : PathName) :
    (tree.delete doomed).directoryAt? path = tree.directoryAt? path := by
  have same : (tree.delete doomed).isDirectoryAt = tree.isDirectoryAt :=
    funext (isDirectoryAt_delete tree doomed)
  rw [directoryAt?_eq, directoryAt?_eq, same,
    toOption_locate_eq (isDirectoryAt_delete tree doomed) rfl path]

/-- A file that is not deleted is read as before. -/
theorem read_delete_kept {tree : FileTree} {doomed : Location → Bool} {path : PathName}
    {place : Location} (led : tree.locate path = .ok place) (kept : doomed place = false) :
    (tree.delete doomed).read path = tree.read path := by
  have leads := toOption_locate_eq (isDirectoryAt_delete tree doomed) rfl path
  simp only [read, locate_eq_ok_of_toOption_eq leads led, led, isDirectoryAt_delete,
    file?_delete_kept kept]

theorem namesBelow_delete (tree : FileTree) (doomed : Location → Bool) (directory : Location) :
    (tree.delete doomed).namesBelow directory =
      (tree.namesBelow directory).filter fun names => !doomed (directory ++ names) := by
  rw [namesBelow_eq, namesBelow_eq, List.filter_filterMap, List.filterMap_map, List.filterMap_map,
    delete, List.filterMap_filter]
  apply List.filterMap_congr
  intro file _
  cases below : namesFrom? directory file.1 with
  | none => simp [below]
  | some names =>
      have isPlace := (namesFrom?_eq_some_iff.mp below).1
      rw [isPlace] at below
      simp [isPlace, below, Option.filter_some]

end FileTree

end TaggedCatalog
