import TaggedCatalog.Proofs.FileTree.Write
import TaggedCatalog.Proofs.Text.Splitting

/-! # Paths that are written down

A path that has been read is written in one way, and what is written reads back as the
path. Only a path without names asks for a directory when it is written. -/

namespace TaggedCatalog

namespace PathName

/-- A name as it is read: it names something and holds no slash. -/
structure IsReadName (name : String) : Prop where
  names : isName name.toList = true
  free : '/' ∉ name.toList

/-- All names of a path are such as are read. -/
def WellNamed (path : PathName) : Prop := ∀ name ∈ path.names, IsReadName name

theorem wellNamed_ofText (text : String) : (ofText text).WellNamed := by
  intro name member
  rcases List.mem_map.mp member with ⟨piece, isPiece, rfl⟩
  rcases List.mem_filter.mp isPiece with ⟨cut, names⟩
  constructor
  · rwa [String.toList_ofList]
  · rw [String.toList_ofList]
    exact Text.not_mem_of_mem_splitOnChar cut

theorem WellNamed.join {base path : PathName} (baseNamed : base.WellNamed)
    (named : path.WellNamed) : (base.join path).WellNamed := by
  rw [PathName.join]
  split
  · intro name member
    rcases List.mem_append.mp member with inBase | inPath
    · exact baseNamed name inBase
    · exact named name inPath
  · exact named

theorem WellNamed.parent {path : PathName} (named : path.WellNamed) : path.parent.WellNamed :=
  fun name member => named name (List.dropLast_subset _ member)

/-! ## Reading back -/

/-- The text of the names alone. -/
def namesText (names : List String) : List Char := (Text.joinStrings "/" names).toList

theorem toList_text (path : PathName) (filled : path.root ≠ .relative ∨ path.names ≠ []) :
    path.text.toList = path.root.text.toList ++ namesText path.names := by
  have written : ¬(path.root = .relative ∧ path.names = []) := by tauto
  rw [text, if_neg written, String.toList_append, namesText]

theorem filter_splitOnChar_namesText {names : List String}
    (named : ∀ name ∈ names, IsReadName name) :
    (Text.splitOnChar '/' (namesText names)).filter isName = names.map String.toList := by
  cases names with
  | nil => rfl
  | cons name rest =>
      rw [namesText, Text.splitOnChar_joinStrings (by decide) (List.cons_ne_nil _ _)
        fun piece member => (named piece member).free, List.filter_eq_self]
      intro piece member
      rcases List.mem_map.mp member with ⟨origin, isOrigin, rfl⟩
      exact (named origin isOrigin).names

theorem head?_namesText {names : List String}
    (named : ∀ name ∈ names, IsReadName name) :
    (namesText names).head? ≠ some '/' := by
  cases names with
  | nil => simp [namesText, Text.joinStrings]
  | cons name rest =>
      rcases named name List.mem_cons_self with ⟨names, free⟩
      have filled : name.toList ≠ [] := by
        intro empty
        rw [empty] at names
        cases names
      rcases List.exists_cons_of_ne_nil filled with ⟨first, others, spelled⟩
      have starts : (namesText (name :: rest)).head? = some first := by
        cases rest <;> simp [namesText, Text.joinStrings, spelled]
      rw [starts]
      rintro ⟨⟩
      exact free (by simp [spelled])

theorem ofText_root_append (root : PathRoot) {rest : List Char} (free : rest.head? ≠ some '/') :
    PathRoot.ofText (root.text.toList ++ rest) = root := by
  cases rest with
  | nil => cases root <;> rfl
  | cons first others =>
      have different : first ≠ '/' := by simpa using free
      cases root <;> simp [PathRoot.text, PathRoot.ofText, different]

theorem filter_splitOnChar_root (root : PathRoot) (rest : List Char) :
    (Text.splitOnChar '/' (root.text.toList ++ rest)).filter isName =
      (Text.splitOnChar '/' rest).filter isName := by
  cases root <;> simp [PathRoot.text, Text.splitOnChar_cons_self, isName]

theorem getLast?_splitOnChar_root (root : PathRoot) (rest : List Char) :
    (Text.splitOnChar '/' (root.text.toList ++ rest)).getLast? =
      (Text.splitOnChar '/' rest).getLast? := by
  rcases Text.exists_splitOnChar_eq '/' rest with ⟨first, pieces, cut, -⟩
  cases root <;> simp [PathRoot.text, Text.splitOnChar_cons_self, cut, List.getLast?_cons_cons]

/-- A path that is written reads back. -/
theorem ofText_text {path : PathName} (named : path.WellNamed) : ofText path.text = path := by
  by_cases filled : path.root ≠ .relative ∨ path.names ≠ []
  · rw [ofText, toList_text path filled, ofText_root_append _ (head?_namesText named),
      filter_splitOnChar_root, filter_splitOnChar_namesText named, List.map_map]
    simp [Function.comp_def]
  · rcases path with ⟨root, names⟩
    simp only [ne_eq, not_or, not_not] at filled
    rcases filled with ⟨rfl, rfl⟩
    decide +kernel

theorem text_ne_empty {path : PathName} (named : path.WellNamed) : path.text ≠ "" := by
  intro empty
  have isHere := ofText_text named
  rw [empty] at isHere
  rw [← isHere] at empty
  exact absurd empty (by decide +kernel)

/-! ## Joining -/

/-- A path of one name comes of joining only where one of the two is that name and the
other leads nowhere. -/
theorem join_eq_single_iff (base path : PathName) (name : String) :
    base.join path = ⟨.relative, [name]⟩ ↔
      (base = ⟨.relative, []⟩ ∧ path = ⟨.relative, [name]⟩) ∨
        (base = ⟨.relative, [name]⟩ ∧ path = ⟨.relative, []⟩) := by
  rcases base with ⟨baseRoot, baseNames⟩
  rcases path with ⟨root, names⟩
  cases root with
  | relative =>
      simp only [join, mk.injEq, List.append_eq_singleton_iff, true_and]
      tauto
  | single => simp [join]
  | double => simp [join]

end PathName

/-! ## Writing to a path that is written down -/

namespace FileTree

theorem asksForDirectory_text {path : PathName} (named : path.WellNamed) :
    asksForDirectory path.text = path.names.isEmpty := by
  rcases path with ⟨root, names⟩
  cases names with
  | nil => cases root <;> decide +kernel
  | cons name rest =>
      have filled : name :: rest ≠ [] := List.cons_ne_nil name rest
      have last : (Text.splitOnChar '/' (PathName.text ⟨root, name :: rest⟩).toList).getLast? =
          some ((name :: rest).getLast filled).toList := by
        rw [PathName.toList_text _ (.inr filled), PathName.getLast?_splitOnChar_root,
          PathName.namesText, Text.splitOnChar_joinStrings (by decide) filled
            fun piece member => (named piece member).free,
          List.getLast?_map, List.getLast?_eq_some_getLast filled, Option.map_some]
      simp [asksForDirectory, last, (named _ (List.getLast_mem filled)).names]

/-- The text of a path is written to where the path leads. -/
theorem writeAt_text (tree : FileTree) {path : PathName} (named : path.WellNamed)
    (bytes : List UInt8) : tree.writeAt path.text bytes = tree.write path bytes := by
  rw [writeAt, asksForDirectory_text named, PathName.ofText_text named]
  rcases path with ⟨root, names⟩
  cases names with
  | nil =>
      -- Nothing but a root or the working directory is left, and these are directories.
      cases root <;> simp [write, locate, follow, isDirectoryAt_nil, isDirectoryAt_workingDirectory]
  | cons name rest => rfl

end FileTree

end TaggedCatalog
