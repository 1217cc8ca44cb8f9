import TaggedCatalog.Proofs.FileTree.Write
import TaggedCatalog.Proofs.Text.Splitting

/-! # Names that no file can have

A path with a null character in one of its names leads nowhere, and this is a problem of
its own: what is read or written at the path fails with it, and nothing else does. -/

namespace TaggedCatalog

/-- A path has a name that no file can have. -/
def PathName.Impossible (path : PathName) : Prop :=
  ∃ name ∈ path.names, FileTree.nullCharacter ∈ name.toList

namespace FileTree

theorem follow_ne_nullCharacter (tree : FileTree) (start : Location) (names : List String) :
    tree.follow start names ≠ .error .nullCharacter := by
  induction names generalizing start with
  | nil => rintro ⟨⟩
  | cons name rest induction =>
      rw [follow_cons]
      split
      · exact induction _
      · split
        · rintro ⟨⟩
        · split <;> rintro ⟨⟩

theorem locate_eq_nullCharacter_iff (tree : FileTree) (path : PathName) :
    tree.locate path = .error .nullCharacter ↔ path.Impossible := by
  have held_iff : path.names.any (·.toList.contains nullCharacter) = true ↔ path.Impossible := by
    simp [PathName.Impossible]
  rw [← held_iff, locate]
  split
  · rename_i held
    exact iff_of_true rfl held
  · rename_i allowed
    refine iff_of_false ?_ allowed
    split <;> exact follow_ne_nullCharacter _ _ _

theorem read_eq_nullCharacter_iff (tree : FileTree) (path : PathName) :
    tree.read path = .error .nullCharacter ↔ path.Impossible := by
  rw [← tree.locate_eq_nullCharacter_iff path, read]
  cases tree.locate path with
  | error problem => simp
  | ok place =>
      simp only [reduceCtorEq, iff_false]
      repeat' split
      all_goals rintro ⟨⟩

/-- A path to a file that is there is one that a file can have. -/
theorem not_impossible_of_isFile {tree : FileTree} {path : PathName}
    (present : tree.isFile path = true) : ¬ path.Impossible := by
  intro impossible
  rw [isFile, fileAt?, (tree.locate_eq_nullCharacter_iff path).mpr impossible] at present
  cases present

/-- A null character of a text is in one of the names of its path. -/
theorem impossible_ofText_iff (text : String) :
    (PathName.ofText text).Impossible ↔ nullCharacter ∈ text.toList := by
  rw [← Text.exists_mem_splitOnChar_iff (show nullCharacter ≠ '/' by decide)]
  simp only [PathName.Impossible, PathName.ofText, List.mem_map, List.mem_filter,
    exists_exists_and_eq_and, String.toList_ofList]
  constructor
  · rintro ⟨piece, ⟨member, -⟩, held⟩
    exact ⟨piece, member, held⟩
  · rintro ⟨piece, member, held⟩
    refine ⟨piece, ⟨member, ?_⟩, held⟩
    have notEmpty : piece ≠ [] := List.ne_nil_of_mem held
    have notDot : piece ≠ ['.'] := by
      rintro rfl
      exact absurd held (by decide)
    simp [PathName.isName, notEmpty, notDot]

theorem writeAt_eq_nullCharacter_iff (tree : FileTree) (path : String) (bytes : List UInt8) :
    tree.writeAt path bytes = .error .nullCharacter ↔ nullCharacter ∈ path.toList := by
  rw [← impossible_ofText_iff, ← tree.locate_eq_nullCharacter_iff, writeAt]
  cases led : tree.locate (PathName.ofText path) with
  | error problem => simp [write, led]
  | ok place =>
      simp only [write, led, reduceCtorEq, iff_false]
      repeat' split
      all_goals rintro ⟨⟩

end FileTree

end TaggedCatalog
