import Mathlib.Data.List.Basic
import Mathlib.Data.List.DropRight
import TaggedCatalog.Text.Lines

/-! # Pieces and what they are cut from

No piece holds the separator, and every other character of a text is in a piece. A
text put together from pieces without the separator, one separator behind each or in
front of each or between neighbours, is cut into these pieces again. -/

namespace TaggedCatalog.Text

section Letters

variable {α : Type} [DecidableEq α]

theorem splitOnChar_cons_self (separator : α) (rest : List α) :
    splitOnChar separator (separator :: rest) = [] :: splitOnChar separator rest := by
  simp [splitOnChar]

/-- A character that is no separator goes to the first piece. -/
theorem splitOnChar_cons_other {separator c : α} (different : c ≠ separator)
    (rest : List α) :
    ∃ first others, splitOnChar separator rest = first :: others ∧
      splitOnChar separator (c :: rest) = (c :: first) :: others := by
  cases pieces : splitOnChar separator rest with
  | nil =>
      cases rest with
      | nil => cases pieces
      | cons d rest =>
          rw [splitOnChar] at pieces
          split at pieces
          · cases pieces
          · split at pieces <;> cases pieces
  | cons first others => exact ⟨first, others, rfl, by simp [splitOnChar, different, pieces]⟩

theorem splitOnChar_eq_splitOn (separator : α) (text : List α) :
    splitOnChar separator text = text.splitOn separator := by
  induction text with
  | nil => rfl
  | cons c rest induction =>
      rw [List.splitOn_cons_eq_if_modifyHead, ← induction]
      by_cases same : c = separator
      · subst same
        simp [splitOnChar_cons_self]
      · obtain ⟨first, others, pieces, cut⟩ := splitOnChar_cons_other same rest
        simp [cut, pieces, same]

/-- A text is its pieces, with a separator in front of each but the first. -/
theorem exists_splitOnChar_eq (separator : α) (text : List α) :
    ∃ first pieces, splitOnChar separator text = first :: pieces ∧
      text = first ++ pieces.flatMap (separator :: ·) := by
  induction text with
  | nil => exact ⟨[], [], rfl, rfl⟩
  | cons c rest induction =>
      obtain ⟨first, pieces, split, joined⟩ := induction
      by_cases same : c = separator
      · subst same
        exact ⟨[], first :: pieces, by rw [splitOnChar_cons_self, split], by simp [joined]⟩
      · obtain ⟨head, others, splitAgain, cut⟩ := splitOnChar_cons_other same rest
        obtain ⟨rfl, rfl⟩ := List.cons.inj (split.symm.trans splitAgain)
        exact ⟨c :: first, pieces, cut, by simp [joined]⟩

theorem splitOnChar_injective (separator : α) : Function.Injective (splitOnChar separator) := by
  intro left right same
  obtain ⟨first, pieces, split, rfl⟩ := exists_splitOnChar_eq separator left
  obtain ⟨otherFirst, otherPieces, otherSplit, rfl⟩ := exists_splitOnChar_eq separator right
  obtain ⟨rfl, rfl⟩ := List.cons.inj (split.symm.trans (same.trans otherSplit))
  rfl

theorem splitOnChar_append_cons (separator : α) (left right : List α) :
    splitOnChar separator (left ++ separator :: right) =
      splitOnChar separator left ++ splitOnChar separator right := by
  simp only [splitOnChar_eq_splitOn, List.splitOn_append_cons_self]

theorem length_splitOnChar (separator : α) (text : List α) :
    (splitOnChar separator text).length = text.count separator + 1 := by
  induction text with
  | nil => rfl
  | cons c rest induction =>
      by_cases same : c = separator
      · subst same
        rw [splitOnChar_cons_self, List.length_cons, induction, List.count_cons_self]
      · obtain ⟨first, others, pieces, cut⟩ := splitOnChar_cons_other same rest
        rw [pieces] at induction
        rw [cut, List.count_cons_of_ne same]
        exact induction

omit [DecidableEq α] in
theorem head?_flatMap_separator {separator : α} (pieces : List (List α)) :
    ∀ c ∈ (pieces.flatMap (separator :: ·)).head?, c = separator := by
  cases pieces <;> simp

theorem not_mem_of_mem_splitOnChar {separator : α} {text piece : List α}
    (member : piece ∈ splitOnChar separator text) : separator ∉ piece := by
  induction text generalizing piece with
  | nil =>
      rw [List.mem_singleton.mp member]
      exact List.not_mem_nil
  | cons c rest induction =>
      by_cases same : c = separator
      · subst same
        rw [splitOnChar_cons_self] at member
        rcases List.mem_cons.mp member with rfl | later
        · exact List.not_mem_nil
        · exact induction later
      · obtain ⟨first, others, pieces, cut⟩ := splitOnChar_cons_other same rest
        rw [pieces] at induction
        rw [cut] at member
        rcases List.mem_cons.mp member with rfl | later
        · intro held
          rcases List.mem_cons.mp held with equal | inFirst
          · exact same equal.symm
          · exact induction List.mem_cons_self inFirst
        · exact induction (List.mem_cons_of_mem _ later)

/-- Cutting loses no character but the separator. -/
theorem exists_mem_splitOnChar_iff {separator c : α} (different : c ≠ separator)
    (text : List α) : (∃ piece ∈ splitOnChar separator text, c ∈ piece) ↔ c ∈ text := by
  induction text with
  | nil => simp [splitOnChar]
  | cons d rest induction =>
      by_cases same : d = separator
      · subst same
        rw [splitOnChar_cons_self, List.exists_mem_cons_iff, induction]
        simp [different]
      · obtain ⟨first, others, pieces, cut⟩ := splitOnChar_cons_other same rest
        rw [pieces, List.exists_mem_cons_iff] at induction
        rw [cut, List.exists_mem_cons_iff, List.mem_cons, List.mem_cons, or_assoc, induction]

/-- Pieces with a separator behind each. -/
theorem splitOnChar_ended {separator : α} {pieces : List (List α)}
    (free : ∀ piece ∈ pieces, separator ∉ piece) :
    splitOnChar separator (pieces.flatMap (· ++ [separator])) = pieces ++ [[]] := by
  induction pieces with
  | nil => rfl
  | cons piece rest induction =>
      have parts := List.forall_mem_cons.mp free
      have step := List.splitOn_append_cons_self_of_not_mem parts.1
        (rest.flatMap (· ++ [separator]))
      rw [← splitOnChar_eq_splitOn, ← splitOnChar_eq_splitOn, induction parts.2] at step
      simpa using step

/-- Pieces with a separator in front of each. -/
theorem splitOnChar_started {separator : α} {first : List α} {pieces : List (List α)}
    (firstFree : separator ∉ first) (free : ∀ piece ∈ pieces, separator ∉ piece) :
    splitOnChar separator (first ++ pieces.flatMap (separator :: ·)) = first :: pieces := by
  induction pieces generalizing first with
  | nil =>
      rw [List.flatMap_nil, List.append_nil, splitOnChar_eq_splitOn,
        List.splitOn_eq_singleton firstFree]
  | cons piece rest induction =>
      have parts := List.forall_mem_cons.mp free
      have step := List.splitOn_append_cons_self_of_not_mem firstFree
        (piece ++ rest.flatMap (separator :: ·))
      rw [← splitOnChar_eq_splitOn, ← splitOnChar_eq_splitOn, induction parts.1 parts.2] at step
      simpa using step

/-! ## Empty pieces at the end -/

omit [DecidableEq α] in
theorem dropTrailingEmpty_eq_rdropWhile (pieces : List (List α)) :
    dropTrailingEmpty pieces = pieces.rdropWhile List.isEmpty := rfl

omit [DecidableEq α] in
theorem exists_dropTrailingEmpty_append (pieces : List (List α)) :
    ∃ count, dropTrailingEmpty pieces ++ List.replicate count [] = pieces := by
  have dropped : ∀ piece ∈ pieces.rtakeWhile List.isEmpty, piece = [] := by
    intro piece member
    exact List.isEmpty_iff.mp (List.mem_rtakeWhile_imp member)
  refine ⟨(pieces.rtakeWhile List.isEmpty).length, ?_⟩
  rw [← List.eq_replicate_of_mem dropped, dropTrailingEmpty_eq_rdropWhile]
  exact List.rdropWhile_append_rtakeWhile

omit [DecidableEq α] in
theorem getLast?_dropTrailingEmpty (pieces : List (List α)) :
    (dropTrailingEmpty pieces).getLast? ≠ some [] := by
  intro emptyLast
  rw [dropTrailingEmpty_eq_rdropWhile] at emptyLast
  have filled : pieces.rdropWhile List.isEmpty ≠ [] := by
    intro empty
    rw [empty] at emptyLast
    cases emptyLast
  rw [List.getLast?_eq_some_getLast filled, Option.some.injEq] at emptyLast
  exact List.rdropWhile_last_not _ _ filled (by rw [emptyLast]; rfl)

omit [DecidableEq α] in
theorem dropTrailingEmpty_append_cons {piece : List α} (filled : piece ≠ [])
    (before rest : List (List α)) :
    dropTrailingEmpty (before ++ piece :: rest) = before ++ piece :: dropTrailingEmpty rest := by
  simp [dropTrailingEmpty, List.dropWhile_append, filled]

/-- A character that is no separator goes to the last piece. -/
theorem exists_splitOnChar_concat {separator c : α} (different : c ≠ separator)
    (text : List α) :
    ∃ others last, splitOnChar separator (text ++ [c]) = others ++ [last ++ [c]] := by
  induction text with
  | nil => exact ⟨[], [], by simp [splitOnChar, different]⟩
  | cons d rest induction =>
      rcases induction with ⟨others, last, cut⟩
      by_cases same : d = separator
      · subst same
        exact ⟨[] :: others, last, by rw [List.cons_append, splitOnChar_cons_self, cut]; rfl⟩
      · rcases splitOnChar_cons_other same (rest ++ [c]) with ⟨first, pieces, split, longer⟩
        rw [cut] at split
        cases others with
        | nil =>
            rcases List.cons.inj split with ⟨rfl, rfl⟩
            exact ⟨[], d :: last, longer⟩
        | cons head others =>
            rcases List.cons.inj split with ⟨rfl, rfl⟩
            exact ⟨(d :: head) :: others, last, longer⟩

/-- Without the empty pieces at the end, the separators at the end are lost, and no
others. -/
theorem intercalate_dropTrailingEmpty (separator : α) (text : List α) :
    [separator].intercalate (dropTrailingEmpty (splitOnChar separator text)) =
      text.rdropWhile (· == separator) := by
  induction text using List.reverseRecOn with
  | nil => rfl
  | append_singleton before c induction =>
      by_cases same : c = separator
      · subst same
        rw [splitOnChar_append_cons, splitOnChar, dropTrailingEmpty_eq_rdropWhile,
          List.rdropWhile_concat_pos _ _ _ rfl, ← dropTrailingEmpty_eq_rdropWhile, induction,
          List.rdropWhile_concat_pos _ _ _ (by simp)]
      · rcases exists_splitOnChar_concat same before with ⟨others, last, cut⟩
        have kept : dropTrailingEmpty (splitOnChar separator (before ++ [c])) =
            splitOnChar separator (before ++ [c]) := by
          rw [cut]
          exact dropTrailingEmpty_append_cons (by simp) others []
        rw [kept, splitOnChar_eq_splitOn, List.intercalate_splitOn,
          List.rdropWhile_concat_neg _ _ _ (by simpa using same)]

end Letters

/-! ## Pieces joined as strings -/

theorem joinStrings_eq_intercalate (separator : String) (pieces : List String) :
    joinStrings separator pieces = separator.intercalate pieces := by
  induction pieces with
  | nil => rw [joinStrings, String.intercalate_nil]
  | cons piece rest induction =>
      cases rest with
      | nil => rw [joinStrings, String.intercalate_singleton]
      | cons next rest =>
          rw [joinStrings, induction, String.intercalate_cons_cons]
          simp

/-- Pieces with a separator between neighbours. -/
theorem splitOnChar_joinStrings {separator : Char} {text : String} {pieces : List String}
    (isSeparator : text.toList = [separator]) (filled : pieces ≠ [])
    (free : ∀ piece ∈ pieces, separator ∉ piece.toList) :
    splitOnChar separator (joinStrings text pieces).toList = pieces.map String.toList := by
  rw [joinStrings_eq_intercalate, String.toList_intercalate, isSeparator, splitOnChar_eq_splitOn]
  apply List.splitOn_intercalate
  · simpa using free
  · simpa using filled

end TaggedCatalog.Text
