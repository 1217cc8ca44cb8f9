import Mathlib.Data.List.Basic
import TaggedCatalog.FileTree

/-! # What writing a file changes

A file is written where a path leads to, and what lies above that place is already
a directory. So writing makes no directory, and every path leads to where it led
before: only the one file is different. -/

namespace TaggedCatalog

namespace FileTree

/-! ## Directories -/

theorem isDirectoryAt_iff (tree : FileTree) (place : Location) :
    tree.isDirectoryAt place = true ↔
      place = [] ∨ place <+: tree.workingDirectory ∨
        (∃ directory ∈ tree.directories, place <+: directory) ∨
        ∃ file ∈ tree.files, place <+: file.1 ∧ place ≠ file.1 := by
  simp [isDirectoryAt, holdsBelow, or_assoc]

/-- What lies above a directory is a directory. -/
theorem isDirectoryAt_of_isPrefix {tree : FileTree} {place directory : Location}
    (above : place <+: directory) (isDirectory : tree.isDirectoryAt directory = true) :
    tree.isDirectoryAt place = true := by
  rw [isDirectoryAt_iff] at isDirectory ⊢
  rcases isDirectory with empty | working | ⟨listed, member, below⟩ | ⟨file, member, below, strict⟩
  · subst directory
    exact .inl (List.prefix_nil.mp above)
  · exact .inr (.inl (above.trans working))
  · exact .inr (.inr (.inl ⟨listed, member, above.trans below⟩))
  · refine .inr (.inr (.inr ⟨file, member, above.trans below, ?_⟩))
    intro equal
    subst place
    exact strict (below.eq_of_length_le above.length_le)

theorem isDirectoryAt_nil (tree : FileTree) : tree.isDirectoryAt [] = true := by
  simp [isDirectoryAt]

theorem isDirectoryAt_workingDirectory (tree : FileTree) :
    tree.isDirectoryAt tree.workingDirectory = true := by
  simp [isDirectoryAt]

/-- The place that one name leads to from another place. -/
def stepTo (place : Location) (name : String) : Location :=
  if name = ".." then place.dropLast else place ++ [name]

theorem follow_cons (tree : FileTree) (start : Location) (name : String) (rest : List String) :
    tree.follow start (name :: rest) =
      if tree.isDirectoryAt (stepTo start name) then tree.follow (stepTo start name) rest
      else if rest.isEmpty then .ok (stepTo start name)
      else if (tree.file? (stepTo start name)).isSome then .error .notDirectory
      else .error .missing := rfl

/-- One name leads from a directory to a directory or to a name in it. -/
theorem stepTo_of_isDirectoryAt {tree : FileTree} {start : Location} (name : String)
    (isDirectory : tree.isDirectoryAt start = true) :
    tree.isDirectoryAt (stepTo start name) = true ∨ stepTo start name = start ++ [name] := by
  by_cases up : name = ".."
  · left
    rw [stepTo, if_pos up]
    exact isDirectoryAt_of_isPrefix (List.dropLast_prefix start) isDirectory
  · right
    rw [stepTo, if_neg up]

/-- Names followed from a directory lead to a directory or to a name in one. -/
theorem follow_eq_ok {tree : FileTree} {start place : Location} {names : List String}
    (isDirectory : tree.isDirectoryAt start = true) (led : tree.follow start names = .ok place) :
    tree.isDirectoryAt place = true ∨
      ∃ directory name, place = directory ++ [name] ∧ tree.isDirectoryAt directory = true := by
  induction names generalizing start with
  | nil =>
      cases led
      exact .inl isDirectory
  | cons name rest induction =>
      rw [follow_cons] at led
      split at led
      · exact induction ‹_› led
      · split at led
        · cases led
          rcases stepTo_of_isDirectoryAt name isDirectory with found | entered
          · exact .inl found
          · exact .inr ⟨start, name, entered, isDirectory⟩
        · split at led <;> cases led

theorem locate_eq_ok {tree : FileTree} {path : PathName} {place : Location}
    (led : tree.locate path = .ok place) :
    tree.isDirectoryAt place = true ∨
      ∃ directory name, place = directory ++ [name] ∧ tree.isDirectoryAt directory = true := by
  rw [locate] at led
  split at led
  · cases led
  · split at led
    · exact follow_eq_ok tree.isDirectoryAt_workingDirectory led
    · exact follow_eq_ok tree.isDirectoryAt_nil led

/-- Where a path leads to depends on the directories alone. -/
theorem toOption_follow_eq {before after : FileTree}
    (directories : ∀ place, after.isDirectoryAt place = before.isDirectoryAt place)
    (start : Location) (names : List String) :
    (after.follow start names).toOption = (before.follow start names).toOption := by
  induction names generalizing start with
  | nil => rfl
  | cons name rest induction =>
      simp only [follow_cons, directories]
      split
      · exact induction _
      · split
        · rfl
        · split <;> split <;> rfl

theorem toOption_locate_eq {before after : FileTree}
    (directories : ∀ place, after.isDirectoryAt place = before.isDirectoryAt place)
    (working : after.workingDirectory = before.workingDirectory) (path : PathName) :
    (after.locate path).toOption = (before.locate path).toOption := by
  simp only [locate]
  split
  · rfl
  · split
    · rw [working]
      exact toOption_follow_eq directories _ _
    · exact toOption_follow_eq directories _ _

/-! ## Putting a file -/

theorem file?_put_self (tree : FileTree) (place : Location) (content : FileContent) :
    (tree.put place content).file? place = some content := by
  have removed : (tree.files.filter fun file => file.1 != place).find?
      (fun file => file.1 == place) = none := by
    rw [List.find?_eq_none]
    intro file member
    simpa using (List.mem_filter.mp member).2
  simp [put, file?, List.find?_append, removed]

theorem file?_put_other (tree : FileTree) {place other : Location} (content : FileContent)
    (different : other ≠ place) : (tree.put place content).file? other = tree.file? other := by
  have kept : (tree.files.filter fun file => file.1 != place).find? (fun file => file.1 == other) =
      tree.files.find? fun file => file.1 == other := by
    rw [List.find?_filter]
    congr 1
    funext file
    by_cases found : file.1 = other
    · simp [found, different]
    · simp [found]
  simp [put, file?, List.find?_append, kept, Ne.symm different]

theorem isDirectoryAt_put {tree : FileTree} {directory : Location}
    (isDirectory : tree.isDirectoryAt directory = true) (name : String) (content : FileContent)
    (place : Location) :
    (tree.put (directory ++ [name]) content).isDirectoryAt place = tree.isDirectoryAt place := by
  rw [Bool.eq_iff_iff]
  constructor
  · intro now
    rw [isDirectoryAt_iff] at now
    rcases now with empty | working | listed | ⟨file, member, below, strict⟩
    · exact (isDirectoryAt_iff tree place).mpr (.inl empty)
    · exact (isDirectoryAt_iff tree place).mpr (.inr (.inl working))
    · exact (isDirectoryAt_iff tree place).mpr (.inr (.inr (.inl listed)))
    · rcases List.mem_append.mp member with old | new
      · exact (isDirectoryAt_iff tree place).mpr
          (.inr (.inr (.inr ⟨file, List.mem_of_mem_filter old, below, strict⟩)))
      · -- What lies strictly above the new file lies above its directory.
        cases List.mem_singleton.mp new
        rcases List.prefix_concat_iff.mp below with equal | above
        · exact absurd equal strict
        · exact isDirectoryAt_of_isPrefix above isDirectory
  · intro before
    rw [isDirectoryAt_iff] at before ⊢
    rcases before with empty | working | listed | ⟨file, member, below, strict⟩
    · exact .inl empty
    · exact .inr (.inl working)
    · exact .inr (.inr (.inl listed))
    · refine .inr (.inr (.inr ?_))
      by_cases replaced : file.1 = directory ++ [name]
      · exact ⟨(directory ++ [name], content), by simp [put], replaced ▸ below, replaced ▸ strict⟩
      · exact ⟨file, by simp [put, member, replaced], below, strict⟩

/-! ## Writing -/

theorem bytes_holding (bytes : List UInt8) (before : Option FileContent) :
    (FileContent.holding bytes before).bytes = bytes := by
  cases before <;> rfl

/-- A tree differs from the one before by one file, which holds the given bytes. What any
other path leads to can be read as before, or cannot be read as before. -/
structure OnlyWritten (before : FileTree) (place : Location) (bytes : List UInt8)
    (after : FileTree) : Prop where
  holds : after.file? place = some (.holding bytes (before.file? place))
  filesKept : ∀ other, other ≠ place → after.file? other = before.file? other
  directoriesKept : ∀ other, after.isDirectoryAt other = before.isDirectoryAt other
  readBack : ∀ path, before.locate path = .ok place →
    (FileContent.holding bytes (before.file? place)).readable = true → after.read path = .ok bytes
  readsKept : ∀ path, before.locate path ≠ .ok place →
    (after.read path).toOption = (before.read path).toOption

theorem locate_eq_ok_of_toOption_eq {before after : FileTree} {path : PathName} {place : Location}
    (leads : (after.locate path).toOption = (before.locate path).toOption)
    (led : before.locate path = .ok place) : after.locate path = .ok place := by
  rw [led] at leads
  cases found : after.locate path with
  | error problem =>
      rw [found] at leads
      cases leads
  | ok other =>
      rw [found] at leads
      cases leads
      rfl

theorem put_onlyWritten {tree : FileTree} {directory : Location} {name : String}
    (isDirectory : tree.isDirectoryAt directory = true)
    (notDirectory : tree.isDirectoryAt (directory ++ [name]) = false) (bytes : List UInt8) :
    tree.OnlyWritten (directory ++ [name]) bytes
      (tree.put (directory ++ [name]) (.holding bytes (tree.file? (directory ++ [name])))) := by
  set content := FileContent.holding bytes (tree.file? (directory ++ [name]))
  have held : content.bytes = bytes := bytes_holding _ _
  have directories := isDirectoryAt_put isDirectory name content
  have leads := toOption_locate_eq directories rfl
  have others : ∀ other, other ≠ directory ++ [name] →
      (tree.put (directory ++ [name]) content).file? other = tree.file? other :=
    fun _ different => file?_put_other tree _ different
  refine ⟨file?_put_self _ _ _, others, directories, ?_, ?_⟩
  · intro path led (mayBeRead : content.readable = true)
    simp [read, locate_eq_ok_of_toOption_eq (leads path) led, directories, notDirectory,
      file?_put_self, mayBeRead, held]
  · intro path elsewhere
    cases led : tree.locate path with
    | ok place =>
        have different : place ≠ directory ++ [name] := fun equal =>
          elsewhere (equal ▸ led)
        simp only [read, locate_eq_ok_of_toOption_eq (leads path) led, led, directories,
          others place different]
    | error problem =>
        -- A path that led nowhere may now be stopped by the new file, but leads nowhere still.
        have missing := leads path
        rw [led] at missing
        cases found : (tree.put (directory ++ [name]) content).locate path with
        | ok place =>
            rw [found] at missing
            cases missing
        | error other => simp [read, found, led, Except.toOption]

/-- Writing succeeds where a path names a file that may be replaced, or one that may be made
in its directory. -/
theorem writeAt_eq_ok_iff (tree after : FileTree) (path : String) (bytes : List UInt8) :
    tree.writeAt path bytes = .ok after ↔
      asksForDirectory path = false ∧ ∃ place, tree.locate (PathName.ofText path) = .ok place ∧
        tree.isDirectoryAt place = false ∧ tree.mayWriteAt place = true ∧
          after = tree.put place (.holding bytes (tree.file? place)) := by
  cases asks : asksForDirectory path with
  | true =>
      simp only [writeAt, asks, if_true]
      constructor
      · intro written
        repeat' split at written
        all_goals cases written
      · rintro ⟨impossible, -⟩
        cases impossible
  | false =>
      simp only [writeAt, asks, write]
      cases led : tree.locate (PathName.ofText path) with
      | error problem => simp
      | ok place =>
          cases isDirectory : tree.isDirectoryAt place with
          | true => simp [isDirectory]
          | false =>
              cases allowed : tree.mayWriteAt place with
              | false => simp [isDirectory, allowed]
              | true =>
                  simp only [Except.ok.injEq, Bool.false_eq_true, if_false, if_true, true_and,
                    existsAndEq, isDirectory, allowed]
                  exact eq_comm

theorem writeAt_onlyWritten {tree after : FileTree} {path : String} {bytes : List UInt8}
    (written : tree.writeAt path bytes = .ok after) :
    ∃ place, tree.locate (PathName.ofText path) = .ok place ∧
      tree.OnlyWritten place bytes after := by
  obtain ⟨-, place, led, notDirectory, -, rfl⟩ :=
    (writeAt_eq_ok_iff tree after path bytes).mp written
  refine ⟨place, led, ?_⟩
  rcases locate_eq_ok led with impossible | ⟨directory, name, rfl, isDirectory⟩
  · rw [notDirectory] at impossible
    cases impossible
  · exact put_onlyWritten isDirectory notDirectory bytes

end FileTree

end TaggedCatalog
